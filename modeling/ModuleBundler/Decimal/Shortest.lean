import ModuleBundler.Decimal.Binary

/-!
The decimal text of a floating-point number: the fewest digits that read back as the number, and
of those the nearest to it.
-/
namespace ModuleBundler.Decimal

/-- The decimal `digits * 10 ^ exponent`. -/
structure Numeral where
  digits : Nat
  exponent : Int
deriving DecidableEq

/-- The reals that round to a number: two fractions over one denominator, and whether the ends
belong to them. The gap below a power of two is half as wide as the gap above. -/
structure Interval where
  low : Nat
  high : Nat
  den : Nat
  closed : Bool

def Binary.interval (x : Binary) : Interval :=
  let narrow := x.mantissa == Nat.pow 2 52 && x.exponent > minExponent
  let low := if narrow then 4 * x.mantissa - 1 else 4 * x.mantissa - 2
  let high := 4 * x.mantissa + 2
  let (up, den) := if x.exponent ≥ 2 then (Nat.pow 2 (x.exponent - 2).toNat, 1)
    else (1, Nat.pow 2 (2 - x.exponent).toNat)
  ⟨low * up, high * up, den, x.mantissa % 2 == 0⟩

def scaledByTen (num den : Nat) (exponent : Int) : Nat × Nat :=
  if exponent ≥ 0 then (num, den * Nat.pow 10 exponent.toNat)
  else (num * Nat.pow 10 (-exponent).toNat, den)

def Interval.contains (i : Interval) (d : Numeral) : Bool :=
  let (n, m) := if d.exponent ≥ 0 then (d.digits * Nat.pow 10 d.exponent.toNat, 1)
    else (d.digits, Nat.pow 10 (-d.exponent).toNat)
  let v := n * i.den
  if i.closed then i.low * m ≤ v && v ≤ i.high * m else i.low * m < v && v < i.high * m

def digitCount (n : Nat) : Nat := (Nat.toDigits 10 n).length

/-- The least `k` at or above a start for which `num * 10 ^ k` reaches `den`. -/
def leadingZeros (num den : Nat) : Nat → Nat → Nat
  | 0, k => k
  | fuel + 1, k => if num * Nat.pow 10 k ≥ den then k else leadingZeros num den fuel (k + 1)

def floorLog10 (num den : Nat) : Int :=
  if num ≥ den then (digitCount (num / den) : Int) - 1
  else -(leadingZeros num den 400 0 : Int)

/-- Of the two decimals of a given length next to a fraction, the nearer one that reads back. -/
def nearest? (i : Interval) (num den : Nat) (exponent : Int) : Option Numeral :=
  let (n, d) := scaledByTen num den exponent
  let below : Numeral := ⟨n / d, exponent⟩
  let above : Numeral := ⟨n / d + 1, exponent⟩
  let twice := 2 * (n % d)
  let downFirst := twice < d || (twice == d && below.digits % 2 == 0)
  let (first, second) := if downFirst then (below, above) else (above, below)
  if i.contains first then some first
  else if i.contains second then some second
  else none

def shortestFrom (i : Interval) (num den : Nat) (lead : Int) : Nat → Nat → Numeral
  | 0, _ =>
    let (n, d) := scaledByTen num den (lead - 16)
    ⟨n / d, lead - 16⟩
  | fuel + 1, count =>
    match nearest? i num den (lead - count + 1) with
    | some d => d
    | none => shortestFrom i num den lead fuel (count + 1)

def Binary.shortest (x : Binary) : Numeral :=
  let (num, den) := x.fraction
  shortestFrom x.interval num den (floorLog10 num den) 17 1

/-- How a number is written: which powers of the first digit are written without an exponent. -/
structure Layout where
  leastPlain : Int
  greatestPlain : Int

def trimZeros (digits : List Char) : List Char := (digits.reverse.dropWhile (· == '0')).reverse

/-- Digits whose first stands for `10 ^ power`, as text. A plain number always has a point; an
exponent always has a sign. -/
def Layout.digits (layout : Layout) (ds : List Char) (power : Int) : List Char :=
  if layout.leastPlain ≤ power && power ≤ layout.greatestPlain then
    if power < 0 then ['0', '.'] ++ List.replicate (-power - 1).toNat '0' ++ ds
    else
      let whole := power.toNat + 1
      let front := ds.take whole
      let zeros := List.replicate (whole - front.length) '0'
      let back := ds.drop whole
      front ++ zeros ++ '.' :: (if back.isEmpty then ['0'] else back)
  else
    let sign := if power < 0 then '-' else '+'
    let point := match ds.drop 1 with
      | [] => []
      | more => '.' :: more
    ds.take 1 ++ point ++ ['e', sign] ++ Nat.toDigits 10 power.natAbs

def Layout.text (layout : Layout) (x : Binary) : List Char :=
  let sign := if x.negative then ['-'] else []
  if x.isZero then sign ++ ['0', '.', '0']
  else
    let d := x.shortest
    let all := Nat.toDigits 10 d.digits
    let power := d.exponent + (all.length : Int) - 1
    sign ++ layout.digits (trimZeros all) power

end ModuleBundler.Decimal
