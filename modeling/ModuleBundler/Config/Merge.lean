import ModuleBundler.Config.Reader
import ModuleBundler.FileSystem
import ModuleBundler.Log

/-!
From a configuration file to a configuration that a build can start from. What the user asks for
on the command line goes before the file, and the file before defaults.
-/
namespace ModuleBundler

/-- What is asked for on the command line. -/
structure Overrides where
  context : Option Path
  entry : Option String
  directory : Option String
  template : Option String

namespace Overrides

def none : Overrides := ⟨.none, .none, .none, .none⟩

end Overrides

namespace ConfigFile

def singleEntry (path : String) : List (String × Path) :=
  [(BuildConfig.defaultEntryName, .ofString path)]

/-- The context. In a file it is relative to a base, such as the directory of the file. -/
def chosenContext (file : ConfigFile) (o : Overrides) (base : Path) : Path :=
  match o.context, file.context with
  | some context, _ => context
  | none, some context => base.join (.ofString context)
  | none, none => base

def chosenEntries (file : ConfigFile) (o : Overrides) : List (String × Path) :=
  match o.entry, file.entry with
  | some path, _ => singleEntry path
  | none, some (.single path) => singleEntry path
  | none, some (.named paths) => Keyed.ofPairs (paths.map fun p => (p.1, .ofString p.2))
  | none, none => singleEntry defaultEntry

theorem chosenEntries_nodup (file : ConfigFile) (o : Overrides) :
    ((file.chosenEntries o).map Prod.fst).Nodup := by
  unfold chosenEntries
  split
  · simp [singleEntry]
  · simp [singleEntry]
  · exact Keyed.nodup_ofPairs _
  · simp [singleEntry]

def chosenOutput (file : ConfigFile) (o : Overrides) : Output where
  directory :=
    match o.directory.or (file.output.bind OutputSection.path) with
    | some path => .ofString path
    | none => Output.default.directory
  template := (o.template.or (file.output.bind OutputSection.filename)).getD
    Output.default.template

def warnings (entries : List (String × Path)) (output : Output) : List Log.Event :=
  if entries.length > 1 && !output.hasPlaceholder then
    [.missingPlaceholder output.template Output.placeholder entries.length]
  else []

def merge (file : ConfigFile) (o : Overrides) (base : Path) (loaders : Loaders) :
    Except BuildError BuildConfig × List Log.Event :=
  let entries := file.chosenEntries o
  let output := file.chosenOutput o
  let sections := (file.module.map ModuleSection.rules).getD []
  let config : Except BuildError BuildConfig := do
    let rules ← sections.mapM fun r => loaders.rule r.test r.loaders
    return {
      context := file.chosenContext o base
      entries := entries
      extensions := (file.resolve.bind ResolveSection.extensions).getD
        BuildConfig.defaultExtensions
      rules := rules
      output := output
      names_nodup := file.chosenEntries_nodup o }
  (config, warnings entries output)

def load (files : Files) (path : Path) : Except BuildError ConfigFile × List Log.Event :=
  let result : Except BuildError ConfigFile := do
    match read (← files.readModule path) with
    | .ok c => return c
    | .error fault => throw (.config (.badFile path fault))
  (result, [.loadingConfig path])

def pathIn (directory : Path) : Path := directory.join (.ofString fileName)

def find (files : Files) (directory : Path) :
    Except BuildError (Option ConfigFile) × List Log.Event :=
  let path := pathIn directory
  if files.isFile path then
    let (result, events) := load files path
    (result.map some, events)
  else (.ok none, [.noConfigFile fileName])

end ConfigFile

end ModuleBundler
