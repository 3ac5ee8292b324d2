/-!
Sets of characters, written as the increasing list of code points at which membership changes.
A code point belongs to the set when an odd number of changes lie at or below it.
-/
namespace ModuleBundler.Unicode

/-- The increasing code points at which membership changes, starting from "outside". -/
structure Membership where
  changes : Array Nat
deriving DecidableEq

namespace Membership

/-- How many of the first `hi` changes lie at or below `point`, the first `lo` being known to. -/
def countBelow (changes : Array Nat) (point : Nat) : Nat → Nat → Nat → Nat
  | 0, lo, _ => lo
  | fuel + 1, lo, hi =>
    if lo < hi then
      let mid := (lo + hi) / 2
      if changes.getD mid 0 ≤ point then countBelow changes point fuel (mid + 1) hi
      else countBelow changes point fuel lo mid
    else lo

/-- Halving reaches a single change in fewer steps than there are bits in the size. -/
def contains (set : Membership) (point : Nat) : Bool :=
  countBelow set.changes point (set.changes.size.log2 + 2) 0 set.changes.size % 2 = 1

def empty : Membership := ⟨#[]⟩

/-- The code points from one to another, both included. -/
def range (first last : Nat) : Membership := ⟨#[first, last + 1]⟩

/-- Of increasing points, those at which a condition becomes other than it was. -/
def keepChanges (inside : Nat → Bool) : Bool → List Nat → List Nat
  | _, [] => []
  | was, p :: more =>
    if inside p = was then keepChanges inside was more
    else p :: keepChanges inside (inside p) more

/-- The set whose membership depends on that in two sets. Between two changes of either set
nothing changes. -/
def combine (f : Bool → Bool → Bool) (a b : Membership) : Membership :=
  let points := a.changes.toList.merge b.changes.toList fun x y => x ≤ y
  ⟨(keepChanges (fun p => f (a.contains p) (b.contains p)) false (0 :: points)).toArray⟩

def union (a b : Membership) : Membership := combine (· || ·) a b

def inter (a b : Membership) : Membership := combine (· && ·) a b

def diff (a b : Membership) : Membership := combine (fun x y => x && !y) a b

/-- What belongs to one of two sets only. -/
def symmDiff (a b : Membership) : Membership := combine (· != ·) a b

def complement (a : Membership) : Membership := combine (fun x _ => !x) a empty

/-- The changes of a set of points that are given in increasing order. -/
def changesOf : List Nat → List Nat
  | [] => []
  | p :: more =>
    match changesOf more with
    | [] => [p, p + 1]
    | q :: rest =>
      if q = p then q :: rest
      else if q = p + 1 then p :: rest
      else p :: (p + 1) :: q :: rest

def ofPoints (points : List Nat) : Membership :=
  ⟨(changesOf (points.mergeSort (fun x y => x ≤ y))).toArray⟩

def unions (sets : List Membership) : Membership := sets.foldl union empty

end Membership

/-- The property `White_Space`. -/
def whiteSpace : Membership := ⟨#[
    0x9, 0xE, 0x20, 0x21, 0x85, 0x86, 0xA0, 0xA1, 0x1680, 0x1681, 0x2000, 0x200B, 0x2028, 0x202A,
    0x202F, 0x2030, 0x205F, 0x2060, 0x3000, 0x3001]⟩

def isBlank (c : Char) : Bool := whiteSpace.contains c.toNat

/-- The characters up to the last one that is no blank. -/
def trimEnd (cs : List Char) : List Char := (cs.reverse.dropWhile isBlank).reverse

end ModuleBundler.Unicode
