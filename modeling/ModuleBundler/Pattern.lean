import ModuleBundler.Pattern.Reader

/-!
Patterns that select modules by their paths.
-/
namespace ModuleBundler

/-- A pattern that can be used: its text and the expression it stands for. -/
structure Pattern where
  text : String
  expr : Pattern.Expr

namespace Pattern

/-- How deep the parts of a pattern may lie in each other. -/
def maxDepth : Nat := 250

/-- How many bytes an automaton for a pattern may take. -/
def maxWeight : Nat := 10 * Nat.pow 2 20

/-- Reads a pattern. None stands for a text that is not one, or for one that is too large. -/
def read? (text : String) : Option Pattern :=
  match Expr.read? text.toList with
  | some e => if e.depth ≤ maxDepth && e.weight ≤ maxWeight then some ⟨text, e⟩ else none
  | none => none

def isMatch (pattern : Pattern) (text : String) : Bool := pattern.expr.matchesIn text.toList

end Pattern

end ModuleBundler
