import ModuleBundler.Config
import ModuleBundler.Graph.Build
import ModuleBundler.Report

/-!
A build up to its output files, which are made but not written. The file system is only looked at.
-/
namespace ModuleBundler

open Log (note timed)

namespace BuildConfig

def callee : String := "require"

def sources (c : BuildConfig) (cwd : Path) (files : Files) : Sources where
  root := c.root cwd
  files := files
  resolver := .ofExtensions c.extensions
  rules := c.rules
  callee := callee

def buildEntries (c : BuildConfig) (cwd : Path) (files : Files) : Build (List Entry) :=
  (c.entryPaths cwd).mapM fun e => do
    return ⟨e.1, ← (c.sources cwd files).build e.1 e.2⟩

/-- The chunk of an entry, whose module is in the graph. -/
def chunkOf (g : Graph) (e : Entry) : Option Chunk :=
  (g.get? e.moduleId).map (g.chunk e.name)

/-- Adds the output file of a chunk. No two chunks go to one file. -/
def emit (output : Output) (assets : List (String × String)) (c : Chunk) :
    Build (List (String × String)) := do
  let file := output.fileFor c.name
  if (Keyed.get? file assets).isSome then throw (.config (.sharedFile file))
  let script ← timed ("Emitting chunk " ++ c.name) (return c.script)
  note (.chunkEmitted file c.modules.length script.utf8ByteSize)
  return assets ++ [(file, script)]

def compileSteps (c : BuildConfig) (cwd : Path) (files : Files) : Build Report := do
  if c.entries.isEmpty then throw (.config .noEntry)
  note (.buildStarted (c.root cwd) c.entries.length)
  let entries ← timed "Building module graph" (c.buildEntries cwd files)
  let graph := (← get).graph
  let chunks := entries.filterMap (chunkOf graph)
  let assets ← chunks.foldlM (emit c.output) []
  return ⟨entries, graph.modules, assets.map (·.1), assets, chunks⟩

/-- Builds from an empty graph: the report or what ended the build, and how far it came. -/
def compile (c : BuildConfig) (cwd : Path) (files : Files) :
    Except BuildError Report × Progress :=
  (c.compileSteps cwd files).run.run ⟨.empty, [], []⟩

/-- Builds in a process. It may have no directory to work in, and then a relative context leads
nowhere. -/
def compileIn (c : BuildConfig) (current : Except IoCause Path) (files : Files) :
    Except BuildError Report × Progress :=
  match c.origin current with
  | .ok cwd => c.compile cwd files
  | .error e => (.error e, ⟨.empty, [], []⟩)

end BuildConfig

end ModuleBundler
