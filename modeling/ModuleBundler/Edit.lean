import ModuleBundler.Script.Dependency
import ModuleBundler.Text.Quoted

/-!
Edits of a source text. They are collected from one reading of it and applied together, so that
every span counts the bytes of the text as it was read.
-/
namespace ModuleBundler

open Script (Span DependencyCall)

def loaderName : String := "__tinypack_require__"

structure Edit where
  span : Span
  replacement : String
deriving DecidableEq

/-- Edits in the order they were decided on. -/
structure EditPlan where
  edits : List Edit

namespace EditPlan

def empty : EditPlan := ⟨[]⟩

def size (plan : EditPlan) : Nat := plan.edits.length

def redirect (plan : EditPlan) (call : DependencyCall) (moduleId : String) : EditPlan :=
  ⟨plan.edits ++ [⟨call.callee, loaderName⟩, ⟨call.argument, Text.quote moduleId⟩]⟩

/-- Turns a line that addresses the system's loader into a comment, so that the text may stand
inside another. -/
def commentOut (plan : EditPlan) (hashbang : Span) : EditPlan :=
  ⟨plan.edits ++ [⟨⟨hashbang.start, hashbang.start + 2⟩, "//"⟩]⟩

end EditPlan

def splitBytes (n : Nat) : List Char → List Char × List Char
  | [] => ([], [])
  | c :: rest =>
    if n = 0 then ([], c :: rest)
    else
      let (before, after) := splitBytes (n - c.utf8Size) rest
      (c :: before, after)

def Edit.replaceIn (text : List Char) (e : Edit) : List Char :=
  let (before, rest) := splitBytes e.span.start text
  let (_, after) := splitBytes (e.span.stop - e.span.start) rest
  before ++ e.replacement.toList ++ after

/-- The edits in the order in which they are made: the last span first, so that the spans before it
stay in place. -/
def EditPlan.ordered (plan : EditPlan) : List Edit :=
  plan.edits.mergeSort fun a b => a.span.start ≥ b.span.start

/-- The edited text. -/
def EditPlan.apply (plan : EditPlan) (source : String) : String :=
  String.ofList (plan.ordered.foldl Edit.replaceIn source.toList)

end ModuleBundler
