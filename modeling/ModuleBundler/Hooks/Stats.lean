import ModuleBundler.Hooks

/-!
A plugin that keeps the phases of a build that have come to their end.
-/
namespace ModuleBundler

/-- The phases of the current build; none has started before the first build. -/
structure Stats where
  started : Bool
  phases : List String

namespace Stats

def idle : Stats := ⟨false, []⟩

def begin_ : Stats := ⟨true, []⟩

def finish (phase : String) (s : Stats) : Stats :=
  if s.started then { s with phases := s.phases ++ [phase] } else s

def pluginName : String := "stats-plugin"

variable {ω : Type}

/-- The call-back for the end of a phase. A verbose one tells of it. -/
def finishTap (verbose : Bool) (get : ω → Stats) (set : Stats → ω → ω) (phase : String) :
    Tap ω where
  name := pluginName
  fire w :=
    (set ((get w).finish phase) w,
      if verbose && (get w).started then [.phaseFinished phase] else [])

def plugin (verbose : Bool) (get : ω → Stats) (set : Stats → ω → ω) : Plugin ω :=
  .ofTaps pluginName [
    (.run, ⟨pluginName, fun w => (set begin_ w, [])⟩),
    (.emit, finishTap verbose get set "generate"),
    (.done, finishTap verbose get set "write")]

end Stats

end ModuleBundler
