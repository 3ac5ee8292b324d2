import ModuleBundler.Compile
import ModuleBundler.Hooks

/-!
A build with its output written, and with the call-backs of those who watch it. Nothing is written
unless every module and every chunk could be made.
-/
namespace ModuleBundler

open Log (note timed)

structure Compiler (ω : Type) where
  config : BuildConfig
  /-- The directory that the process works in, or why it cannot be told. -/
  current : Except IoCause Path
  hooks : Hooks ω
  plugins : List (Plugin ω)

/-- What a run works on: the files, the world of the call-backs, and what happened. -/
structure RunState (σ ω : Type) where
  store : σ
  world : ω
  events : List Log.Event
  /-- The paths that the file system was asked about. -/
  looked : List Path

instance {σ ω : Type} : Log.Recorder (RunState σ ω) where
  record e s := { s with events := s.events ++ [e] }

abbrev Run (σ ω : Type) := ExceptT BuildError (StateM (RunState σ ω))

namespace Compiler

variable {σ ω : Type}

def new (config : BuildConfig) (current : Except IoCause Path) : Compiler ω :=
  ⟨config, current, .none, []⟩

def withPlugin (c : Compiler ω) (p : Plugin ω) : Compiler ω :=
  { c with hooks := p.apply c.hooks, plugins := c.plugins ++ [p] }

def tap (c : Compiler ω) (point : HookPoint) (t : Tap ω) : Compiler ω :=
  { c with hooks := c.hooks.tap point t }

def compile (c : Compiler ω) (files : Files) : Except BuildError Report × Progress :=
  c.config.compileIn c.current files

def outputDirectory (c : Compiler ω) : Except BuildError Path :=
  (c.config.origin c.current).map c.config.outputDirectory

def announce (c : Compiler ω) (point : HookPoint) : Run σ ω Unit :=
  modify fun s =>
    let (world, events) := c.hooks.call point s.world
    { s with world, events := s.events ++ events }

variable [FileSystem σ]

def compileStored (c : Compiler ω) : Run σ ω Report :=
  ExceptT.mk do
    let s ← get
    let (result, progress) := c.compile (FileSystem.files s.store)
    set { s with events := s.events ++ progress.events, looked := s.looked ++ progress.looked }
    return result

def change (operation : σ → Except BuildError Unit × σ) : Run σ ω Unit :=
  ExceptT.mk do
    let s ← get
    let (result, store) := operation s.store
    set { s with store }
    return result

def look (path : Path) : Run σ ω Unit := modify fun s => { s with looked := s.looked ++ [path] }

/-- Writes the output files into a directory, which is made if it is not there. -/
def writeAssets (directory : Except BuildError Path) (assets : List (String × String)) :
    Run σ ω Unit := do
  let directory ← ExceptT.mk (pure directory)
  look directory
  let there := FileSystem.isDirectory (← get).store directory
  if !there then change (FileSystem.createDirectory directory)
  assets.forM fun (file, text) => do
    let path := directory.join (.ofString file)
    look path
    change (FileSystem.write path text)

def runSteps (c : Compiler ω) : Run σ ω Report := do
  c.announce .run
  let report ← c.compileStored
  c.announce .emit
  timed "Writing output files" (writeAssets c.outputDirectory report.assets)
  c.announce .done
  note (.buildCompleted report.modules.length report.files)
  return report

/-- Builds and writes the output: the report or what ended the build, and what has become of the
files and the world. -/
def run (c : Compiler ω) (store : σ) (world : ω) : Except BuildError Report × RunState σ ω :=
  c.runSteps.run.run ⟨store, world, [], []⟩

end Compiler

end ModuleBundler
