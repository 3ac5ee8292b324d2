import ModuleBundler.Error
import ModuleBundler.Json.Reader
import ModuleBundler.Keyed
import ModuleBundler.Pattern

/-!
Transforms of source texts, and rules that say which modules they are for. Of all transforms for a
module the last one configured runs first. Two transforms can be named by every build: one turns a
JSON document into a module that exports its value, one puts a text above a module.
-/
namespace ModuleBundler

/-- A named step from text to text. A failure is told by a chain of messages, the last of which is
the first cause. -/
structure Transform where
  name : String
  run : String → Except (List String) String

/-- A pattern for the paths of modules, with the transforms for those. -/
structure Rule where
  pattern : Pattern
  transforms : List Transform

def Rule.applies (rule : Rule) (path : Path) : Bool := rule.pattern.isMatch path.slashed

namespace Transform

def chainMessage (chain : List String) : String := String.intercalate ": " chain

def selected (rules : List Rule) (path : Path) : List Transform :=
  (rules.filter (·.applies path)).flatMap Rule.transforms

def runAll (path : Path) : List Transform → String → Except BuildError String
  | [], text => .ok text
  | t :: more, text =>
    match t.run text with
    | .ok result => runAll path more result
    | .error chain => .error (.transform path t.name (chainMessage chain))

def apply (rules : List Rule) (path : Path) (text : String) : Except BuildError String :=
  runAll path (selected rules path).reverse text

end Transform

structure Loaders where
  entries : List (String × Transform)

namespace Loaders

def empty : Loaders := ⟨[]⟩

def register (loaders : Loaders) (t : Transform) : Loaders :=
  ⟨Keyed.put t.name t loaders.entries⟩

def ofList (transforms : List Transform) : Loaders := transforms.foldl register empty

def get? (loaders : Loaders) (name : String) : Option Transform :=
  Keyed.get? name loaders.entries

def contains (loaders : Loaders) (name : String) : Bool := (loaders.get? name).isSome

def get (loaders : Loaders) (name : String) : Except BuildError Transform :=
  match loaders.get? name with
  | some t => .ok t
  | none => .error (.config (.unknownLoader name))

def pattern (text : String) : Except BuildError Pattern :=
  match Pattern.read? text with
  | some p => .ok p
  | none => .error (.config (.badPattern text))

/-- The rule that gives the modules of a pattern to loaders. That all of them are known comes
before the pattern is read. -/
def rule (loaders : Loaders) (text : String) (names : List String) : Except BuildError Rule := do
  if names.isEmpty then throw (.config (.noLoader text))
  let transforms ← names.mapM loaders.get
  return ⟨← pattern text, transforms⟩

end Loaders

namespace Transform

def jsonModule (document : Json) : String :=
  "module.exports = " ++ document.settled.compactText ++ ";"

def json : Transform where
  name := "json"
  run text :=
    match Json.parse text with
    | .ok document => .ok (jsonModule document)
    | .error fault => .error ["invalid JSON module", fault.message]

def banner (text : String) : Transform where
  name := "banner"
  run source := .ok (if text.isEmpty then source else text ++ "\n" ++ source)

def builtin (bannerText : Option String) : Loaders :=
  .ofList [json, banner (bannerText.getD "")]

end Transform

end ModuleBundler
