/-!
Finite binary floating-point numbers of 53 significant bits, as exact integers: a number is its
mantissa times a power of two. Each operation is the exact result, rounded once to the nearest
number of that form, a tie going to the even mantissa.
-/
namespace ModuleBundler.Decimal

/-- The number `mantissa * 2 ^ exponent`, negated if `negative`. Unless the exponent is least, the
mantissa has 53 bits. -/
structure Binary where
  negative : Bool
  mantissa : Nat
  exponent : Int
deriving DecidableEq

namespace Binary

def minExponent : Int := -1074

def maxExponent : Int := 971

def zero (negative : Bool) : Binary := ⟨negative, 0, minExponent⟩

def isZero (x : Binary) : Bool := x.mantissa == 0

def scaled (num den : Nat) (e : Int) : Nat × Nat :=
  if e ≥ 0 then (num, den * Nat.pow 2 e.toNat) else (num * Nat.pow 2 (-e).toNat, den)

def roundDiv (num den : Nat) : Nat :=
  let q := num / den
  let twice := 2 * (num % den)
  if twice > den || (twice == den && q % 2 == 1) then q + 1 else q

def floorLog2 (num den : Nat) : Int :=
  let guess : Int := (num.log2 : Int) - (den.log2 : Int)
  let (n, d) := scaled num den guess
  if n < d then guess - 1 else guess

def round? (negative : Bool) (num den : Nat) : Option Binary :=
  if num == 0 then some (zero negative)
  else
    let e := max (floorLog2 num den - 52) minExponent
    let (n, d) := scaled num den e
    let m := roundDiv n d
    let (m, e) := if m == Nat.pow 2 53 then (Nat.pow 2 52, e + 1) else (m, e)
    if e > maxExponent then none else some ⟨negative, m, e⟩

def fraction (x : Binary) : Nat × Nat :=
  if x.exponent ≥ 0 then (x.mantissa * Nat.pow 2 x.exponent.toNat, 1)
  else (x.mantissa, Nat.pow 2 (-x.exponent).toNat)

def mul? (x y : Binary) : Option Binary :=
  let (a, b) := x.fraction
  let (c, d) := y.fraction
  round? (x.negative != y.negative) (a * c) (b * d)

def div? (x y : Binary) : Option Binary :=
  let (a, b) := x.fraction
  let (c, d) := y.fraction
  round? (x.negative != y.negative) (a * d) (b * c)

def neg (x : Binary) : Binary := { x with negative := !x.negative }

def ofNat? (n : Nat) : Option Binary := round? false n 1

end Binary

end ModuleBundler.Decimal
