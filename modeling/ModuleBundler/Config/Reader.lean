import ModuleBundler.Config.File
import ModuleBundler.Json.Typed

/-!
Reading configuration files.
-/
namespace ModuleBundler.ConfigFile

open Json (Reader)
open Json.Reader (Member record stringValue nullable listOf failUnplaced)

/-- A part that may be missing. In a list it must be there. -/
def option {α : Type} (name : String) (read : α → Reader α) : Member α := ⟨name, read, false, false⟩

def namedPaths? : List (String × Json) → Option (List (String × String))
  | [] => some []
  | (name, .string path) :: more => (namedPaths? more).map ((name, path) :: ·)
  | _ => none

/-- The entries that a document gives. Of entries with one name the last path counts. -/
def EntrySection.ofJson? : Json → Option EntrySection
  | .string path => some (.single path)
  | .object members => (namedPaths? members).map fun paths => .named (Keyed.ofPairs paths)
  | _ => none

def entrySection : Reader EntrySection := do
  match EntrySection.ofJson? (← Json.Reader.value Json.maxNesting) with
  | some entry => return entry
  | none => failUnplaced (.noVariant "EntryConfig")

def outputSection : Reader OutputSection :=
  record "OutputSection" [
    option "path" fun s => return { s with path := ← nullable stringValue },
    option "filename" fun s => return { s with filename := ← nullable stringValue }] ⟨none, none⟩

def resolveSection : Reader ResolveSection :=
  record "ResolveSection" [
    option "extensions" fun s =>
      return { s with extensions := ← nullable (listOf stringValue) }] ⟨none⟩

def ruleSection : Reader RuleSection :=
  record "RuleConfig" [
    ⟨"test", fun r => return { r with test := ← stringValue }, true, false⟩,
    ⟨"loader", fun r => return { r with loader := ← nullable stringValue }, false, true⟩,
    ⟨"use", fun r => return { r with use := ← listOf stringValue }, false, true⟩] ⟨"", none, []⟩

def moduleSection : Reader ModuleSection :=
  record "ModuleSection" [
    ⟨"rules", fun s => return { s with rules := ← listOf ruleSection }, false, true⟩] ⟨[]⟩

def reader : Reader ConfigFile :=
  record "TinypackConfig" [
    option "context" fun c => return { c with context := ← nullable stringValue },
    option "entry" fun c => return { c with entry := ← nullable entrySection },
    option "output" fun c => return { c with output := ← nullable outputSection },
    option "resolve" fun c => return { c with resolve := ← nullable resolveSection },
    option "module" fun c => return { c with module := ← nullable moduleSection },
    option "banner" fun c => return { c with banner := ← nullable stringValue }] empty

def read (text : String) : Except Json.Fault ConfigFile := Reader.run reader text

def parse (text : String) : Except BuildError ConfigFile :=
  match read text with
  | .ok c => .ok c
  | .error fault => .error (.config (.badText fault))

end ModuleBundler.ConfigFile
