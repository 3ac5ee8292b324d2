import ModuleBundler.Path
import ModuleBundler.Script.Parser.Program

/-!
The calls by which a source text names its dependencies: a call whose callee is directly a given
name and whose first argument is directly a string literal. They are listed in the order of the
tree, a call before the calls inside it.
-/
namespace ModuleBundler.Script

structure DependencyCall where
  specifier : String
  callee : Span
  argument : Span
deriving DecidableEq

namespace Node

def dependency? (callee : String) : Node → Option DependencyCall
  | call _ (leaf .identifier at_ name) _ (leaf .string argument specifier :: _) =>
    if name = callee then some ⟨specifier, at_, argument⟩ else none
  | _ => none

mutual

def dependencies (callee : String) : Node → List DependencyCall
  | leaf .. => []
  | branch _ _ parts => dependenciesIn callee parts
  | call span f types arguments =>
    (dependency? callee (call span f types arguments)).toList ++
      (dependencies callee f ++
        (dependenciesIn callee types ++ dependenciesIn callee arguments))

def dependenciesIn (callee : String) : List Node → List DependencyCall
  | [] => []
  | n :: more => dependencies callee n ++ dependenciesIn callee more

end

end Node

/-- What the rest of a build needs from one reading of a source text. -/
structure Scan where
  calls : List DependencyCall
  hashbang : Option Span

/-- A file name that is no text announces nothing. -/
def Dialect.ofPath (path : Path) : Dialect :=
  .ofFileName ((path.fileName?.bind Utf8.chars?).getD [])

def scan (callee : String) (dialect : Dialect) (text : String) : Except Fault Scan := do
  let program ← Program.read dialect text.toList
  return ⟨program.tree.dependencies callee, program.hashbang⟩

end ModuleBundler.Script
