import ModuleBundler.Config
import ModuleBundler.Json.Basic

/-!
The configuration as users write it, in a file. Any part may be missing.
-/
namespace ModuleBundler

namespace ConfigFile

/-- Where to start: a single path, or paths by name. -/
inductive EntrySection where
  | single (path : String)
  | named (paths : List (String × String))
deriving DecidableEq

structure OutputSection where
  path : Option String
  filename : Option String
deriving DecidableEq

structure ResolveSection where
  extensions : Option (List String)
deriving DecidableEq

/-- A rule names one loader, or several. -/
structure RuleSection where
  test : String
  loader : Option String
  use : List String
deriving DecidableEq

structure ModuleSection where
  rules : List RuleSection
deriving DecidableEq

/-- The loaders of a rule. The single one, if given, goes before a list. -/
def RuleSection.loaders (r : RuleSection) : List String :=
  match r.loader with
  | some name => [name]
  | none => r.use

end ConfigFile

open ConfigFile

structure ConfigFile where
  context : Option String
  entry : Option EntrySection
  output : Option OutputSection
  resolve : Option ResolveSection
  module : Option ModuleSection
  banner : Option String
deriving DecidableEq

namespace ConfigFile

def empty : ConfigFile := ⟨none, none, none, none, none, none⟩

def fileName : String := "tinypack.config.json"

def defaultEntry : String := "./src/index.js"

def member {α : Type} (name : String) (json : α → Json) (value : Option α) :
    List (String × Json) :=
  (value.map fun v => (name, json v)).toList

def strings (texts : List String) : Json := .array (texts.map .string)

def EntrySection.json : EntrySection → Json
  | single path => .string path
  | named paths => .object (paths.map fun p => (p.1, .string p.2))

def OutputSection.json (s : OutputSection) : Json :=
  .object (member "path" .string s.path ++ member "filename" .string s.filename)

def ResolveSection.json (s : ResolveSection) : Json :=
  .object (member "extensions" strings s.extensions)

def RuleSection.json (s : RuleSection) : Json :=
  .object (("test", .string s.test) :: (member "loader" .string s.loader ++
    member "use" strings (if s.use.isEmpty then none else some s.use)))

def ModuleSection.json (s : ModuleSection) : Json :=
  .object [("rules", .array (s.rules.map RuleSection.json))]

def json (c : ConfigFile) : Json :=
  .object (member "context" .string c.context ++ member "entry" EntrySection.json c.entry ++
    member "output" OutputSection.json c.output ++
    member "resolve" ResolveSection.json c.resolve ++
    member "module" ModuleSection.json c.module ++ member "banner" .string c.banner)

def text (c : ConfigFile) : String := c.json.compactText

def example_ : ConfigFile where
  context := some "."
  entry := some (.named [(BuildConfig.defaultEntryName, defaultEntry)])
  output := some ⟨some Output.default.directory.text, some Output.default.template⟩
  resolve := some ⟨some BuildConfig.defaultExtensions⟩
  module := some ⟨[⟨"\\.json$", some "json", []⟩]⟩
  banner := none

def exampleText : String := example_.json.prettyText

end ConfigFile

end ModuleBundler
