import ModuleBundler.Path

/-!
What a build tells about itself on the way.
-/
namespace ModuleBundler.Log

inductive Level where
  | trace | debug | info | warn | error
deriving DecidableEq

inductive Event where
  | buildStarted (context : Path) (entries : Nat)
  | probing (path : Path)
  | moduleBuilt (id : String) (dependencies : Nat)
  | moduleReused (id : String) (entry : String)
  | started (activity : String)
  | completed (activity : String)
  | chunkEmitted (file : String) (modules bytes : Nat)
  | buildCompleted (modules : Nat) (files : List String)
  /-- A phase of the build has come to its end. -/
  | phaseFinished (phase : String)
  | noConfigFile (name : String)
  | loadingConfig (path : Path)
  /-- A name for output files that does not tell several entries apart. -/
  | missingPlaceholder (template placeholder : String) (entries : Nat)
  | message (level : Level) (text : String)
deriving DecidableEq

namespace Event

def count (n : Nat) (things : String) : String := toString n ++ " " ++ things

/-- The lines that tell of an event. `elapsed` is the text of the time that it took. -/
def lines (elapsed : String) : Event → List (Level × String)
  | buildStarted context entries =>
    [(.info, "📦 tinypack build"), (.info, "📁 Context: " ++ context.text),
      (.info, "🎯 Entries: " ++ toString entries)]
  | probing path => [(.trace, "probing " ++ path.text)]
  | moduleBuilt id dependencies =>
    [(.debug, "🔍 Built module " ++ id ++ " (" ++ count dependencies "dependencies)")]
  | moduleReused id entry => [(.debug, "♻️  Reusing module " ++ id ++ " for entry " ++ entry)]
  | started activity => [(.debug, "⏱️  Starting: " ++ activity)]
  | completed activity => [(.debug, "⏱️  Completed: " ++ activity ++ " in " ++ elapsed)]
  | chunkEmitted file modules bytes =>
    [(.debug, "📝 Emitted " ++ file ++ " (" ++ count modules "modules, " ++ count bytes "bytes)")]
  | buildCompleted modules files =>
    (.info, "📊 Modules: " ++ toString modules) :: files.map (fun f => (.info, "  • " ++ f)) ++
      [(.info, "✅ Build completed in " ++ elapsed)]
  | phaseFinished phase => [(.info, "📊 Stats: " ++ phase ++ " finished after " ++ elapsed)]
  | noConfigFile name => [(.debug, "No " ++ name ++ " found, using defaults")]
  | loadingConfig path => [(.debug, "Loading config from " ++ path.text)]
  | missingPlaceholder template placeholder entries =>
    [(.warn, "⚠️  output filename '" ++ template ++ "' has no " ++ placeholder ++
      " placeholder but " ++ count entries "entries are configured")]
  | message .error text => [(.error, "❌ " ++ text)]
  | message .warn text => [(.warn, "⚠️  " ++ text)]
  | message level text => [(level, text)]

end Event

class Recorder (σ : Type) where
  record : Event → σ → σ

variable {ε σ α : Type} [Recorder σ]

def note (e : Event) : ExceptT ε (StateM σ) Unit :=
  ExceptT.mk do
    modify (Recorder.record e)
    return .ok ()

/-- Notes the start and the end of an activity, the end also when it fails. -/
def timed (activity : String) (work : ExceptT ε (StateM σ) α) : ExceptT ε (StateM σ) α :=
  ExceptT.mk do
    modify (Recorder.record (.started activity))
    let result ← work.run
    modify (Recorder.record (.completed activity))
    return result

end ModuleBundler.Log
