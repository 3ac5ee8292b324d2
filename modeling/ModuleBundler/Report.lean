import ModuleBundler.Chunk
import ModuleBundler.Error
import ModuleBundler.Json.Basic

/-!
What a build produced, and its JSON text.
-/
namespace ModuleBundler

/-- A named start of a build and the name of its module. -/
structure Entry where
  name : String
  moduleId : String
deriving DecidableEq

structure Report where
  entries : List Entry
  modules : List Module
  files : List String
  assets : List (String × String)
  chunks : List Chunk
deriving DecidableEq

namespace Report

def empty : Report := ⟨[], [], [], [], []⟩

def module? (r : Report) (id : String) : Option Module := r.modules.find? fun m => m.id = id

def chunk? (r : Report) (name : String) : Option Chunk := r.chunks.find? fun c => c.name = name

def stringsJson (texts : List String) : Json := .array (texts.map .string)

def entryJson (e : Entry) : Json :=
  .object [("name", .string e.name), ("moduleId", .string e.moduleId)]

/-- A module as a document, unless its path is no text. -/
def moduleJson? (m : Module) : Option Json := do
  let path ← m.path.text?
  return .object [("id", .string m.id), ("absolutePath", .string path),
    ("source", .string m.source), ("dependencies", stringsJson m.dependencies),
    ("owningEntries", stringsJson m.owners)]

def chunkJson? (c : Chunk) : Option Json := do
  let entryModule ← moduleJson? c.entryModule
  let modules ← c.modules.mapM moduleJson?
  return .object [("name", .string c.name), ("entryModule", entryModule),
    ("modules", .array modules)]

/-- The report as a document. Members stand in the order of the build. -/
def json? (r : Report) : Option Json := do
  let modules ← r.modules.mapM moduleJson?
  let chunks ← r.chunks.mapM chunkJson?
  return .object [("entries", .array (r.entries.map entryJson)), ("modules", .array modules),
    ("files", stringsJson r.files), ("assets", .object (r.assets.map fun a => (a.1, .string a.2))),
    ("chunks", .array chunks)]

def text (r : Report) : Except BuildError String :=
  match r.json? with
  | some document => .ok document.prettyText
  | none => .error (.report ⟨.pathNotText, 0, 0⟩)

end Report

end ModuleBundler
