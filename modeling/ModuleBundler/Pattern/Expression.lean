import ModuleBundler.Unicode.Property

/-!
Regular expressions over characters, with conditions on the place between two characters. Matching
follows partial derivatives: what remains to be matched after one character is a list of
expressions, one of which must match the rest.
-/
namespace ModuleBundler.Pattern

open Unicode (Membership)

/-- What a condition on words asks of a place. -/
inductive WordEdge where
  | boundary | noBoundary | start | stop | startHalf | stopHalf
deriving DecidableEq

/-- A condition on the place between two characters. -/
inductive Look where
  | textStart
  | textEnd
  /-- At the start of a line. With `carriage`, a carriage return ends lines as well. -/
  | lineStart (carriage : Bool)
  | lineEnd (carriage : Bool)
  | word (edge : WordEdge) (unicode : Bool)
deriving DecidableEq

inductive Expr where
  | empty
  | set (members : Membership)
  | look (condition : Look)
  | cat (a b : Expr)
  | alt (a b : Expr)
  /-- At least `min` times in a row, and at most `max` times if that is given. -/
  | repeated (a : Expr) (min : Nat) (max : Option Nat)
  /-- An expression inside brackets. `levels` counts them. -/
  | nest (levels : Nat) (a : Expr)
deriving DecidableEq

/-- A place in a text: the characters before it and after it. -/
structure Place where
  before : Option Char
  after : Option Char

def isWord (unicode : Bool) : Option Char → Bool
  | none => false
  | some c =>
    if unicode then Unicode.Property.word.contains c.toNat
    else Unicode.Property.asciiWord.contains c.toNat

namespace WordEdge

/-- Whether a place with or without a word on its two sides is an edge. -/
def holds (before after : Bool) : WordEdge → Bool
  | boundary => before != after
  | noBoundary => before == after
  | start => !before && after
  | stop => before && !after
  | startHalf => !before
  | stopHalf => !after

end WordEdge

namespace Look

def holds (p : Place) : Look → Bool
  | textStart => p.before.isNone
  | textEnd => p.after.isNone
  | lineStart carriage =>
    p.before.isNone || p.before == some '\n' ||
      (carriage && p.before == some '\r' && p.after != some '\n')
  | lineEnd carriage =>
    p.after.isNone ||
      (if carriage then
        p.after == some '\r' || (p.after == some '\n' && p.before != some '\r')
      else p.after == some '\n')
  | word edge unicode => edge.holds (isWord unicode p.before) (isWord unicode p.after)

end Look

namespace Expr

def matchesEmpty (p : Place) : Expr → Bool
  | empty => true
  | set _ => false
  | look condition => condition.holds p
  | cat a b => a.matchesEmpty p && b.matchesEmpty p
  | alt a b => a.matchesEmpty p || b.matchesEmpty p
  | repeated a min _ => min = 0 || a.matchesEmpty p
  | nest _ a => a.matchesEmpty p

def followedBy : Expr → Expr → Expr
  | empty, b => b
  | a, b => cat a b

/-- What may follow the character after a place. Where a repeated expression matches nothing, all
the repetitions that are still needed can be had there. -/
def derive (p : Place) (c : Char) : Expr → List Expr
  | empty => []
  | set members => if members.contains c.toNat then [empty] else []
  | look _ => []
  | cat a b =>
    (a.derive p c).map (·.followedBy b) ++ if a.matchesEmpty p then b.derive p c else []
  | alt a b => a.derive p c ++ b.derive p c
  | repeated a min max =>
    if max = some 0 then []
    else
      let min := if a.matchesEmpty p then 0 else min - 1
      (a.derive p c).map (·.followedBy (repeated a min (max.map (· - 1))))
  | nest _ a => a.derive p c

/-- Whether one of the expressions matches a start of a text, or `whole` matches a part of it. -/
def search (whole : Expr) : List Expr → Option Char → List Char → Bool
  | states, before, [] =>
    (whole :: states).any (matchesEmpty ⟨before, none⟩)
  | states, before, c :: rest =>
    let p : Place := ⟨before, some c⟩
    let states := whole :: states
    states.any (matchesEmpty p) ||
      search whole (states.flatMap (derive p c)).eraseDups (some c) rest

def matchesIn (e : Expr) (text : List Char) : Bool := e.search [] none text

mutual

/-- How deep brackets, repetitions, sequences and choices lie in each other. A sequence of any
length is one level. -/
def depth : Expr → Nat
  | empty | set _ | look _ => 0
  | cat a b => 1 + max a.depth b.sequenceDepth
  | alt a b => 1 + max a.depth b.choiceDepth
  | repeated a _ _ => 1 + a.depth
  | nest levels a => levels + a.depth

def sequenceDepth : Expr → Nat
  | cat a b => max a.depth b.sequenceDepth
  | e => e.depth

def choiceDepth : Expr → Nat
  | alt a b => max a.depth b.choiceDepth
  | e => e.depth

end

def isVoid : Expr → Bool
  | empty | look _ => true
  | set _ => false
  | cat a b | alt a b => a.isVoid && b.isVoid
  | repeated a _ max => max = some 0 || a.isVoid
  | nest _ a => a.isVoid

def copies (a : Expr) (min : Nat) (max : Option Nat) : Nat :=
  let count := max.getD (if min = 0 then 1 else min)
  if a.isVoid then Nat.min 1 count else count

def weight : Expr → Nat
  | empty => 32
  | set members =>
    let ranges := (members.changes.size + 1) / 2
    if ranges ≤ 1 then 32 else 60 * ranges
  | look _ => 32
  | cat a b => a.weight + b.weight
  | alt a b => 40 + a.weight + b.weight
  | repeated a min max => 40 + a.copies min max * (a.weight + if some min = max then 0 else 40)
  | nest levels a => 64 * levels + a.weight

end Expr

end ModuleBundler.Pattern
