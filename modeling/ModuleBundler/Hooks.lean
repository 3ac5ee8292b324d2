import ModuleBundler.Log
import ModuleBundler.Text.Quoted

/-!
The points of a build at which others are called. What they do changes a state of their own, the
world `ω`, and may be logged; it does not change the build.
-/
namespace ModuleBundler

structure Tap (ω : Type) where
  name : String
  fire : ω → ω × List Log.Event

inductive HookPoint where
  | run
  /-- When all output has been made and none is written. -/
  | emit
  | done
deriving DecidableEq

/-- The call-backs of each point, in the order in which they were added. -/
structure Hooks (ω : Type) where
  run : List (Tap ω)
  emit : List (Tap ω)
  done : List (Tap ω)

namespace Hooks

variable {ω : Type}

def none : Hooks ω := ⟨[], [], []⟩

def at_ (h : Hooks ω) : HookPoint → List (Tap ω)
  | .run => h.run
  | .emit => h.emit
  | .done => h.done

def tap (h : Hooks ω) (point : HookPoint) (t : Tap ω) : Hooks ω :=
  match point with
  | .run => { h with run := h.run ++ [t] }
  | .emit => { h with emit := h.emit ++ [t] }
  | .done => { h with done := h.done ++ [t] }

theorem at_tap (h : Hooks ω) (point p : HookPoint) (t : Tap ω) :
    (h.tap point t).at_ p = if point = p then h.at_ p ++ [t] else h.at_ p := by
  cases point <;> cases p <;> rfl

/-- What call-backs make of the world, one after the other. -/
def worldAfter (taps : List (Tap ω)) (w : ω) : ω := taps.foldl (fun w t => (t.fire w).1) w

theorem worldAfter_append (taps more : List (Tap ω)) (w : ω) :
    worldAfter (taps ++ more) w = worldAfter more (worldAfter taps w) :=
  List.foldl_append

def fireAll : List (Tap ω) → ω → ω × List Log.Event
  | [], w => (w, [])
  | t :: more, w =>
    let (w, events) := t.fire w
    let (w, later) := fireAll more w
    (w, events ++ later)

theorem fireAll_fst (taps : List (Tap ω)) (w : ω) : (fireAll taps w).1 = worldAfter taps w := by
  induction taps generalizing w with
  | nil => rfl
  | cons t more ih => exact ih (t.fire w).1

def call (h : Hooks ω) (point : HookPoint) (w : ω) : ω × List Log.Event := fireAll (h.at_ point) w

def names (h : Hooks ω) (point : HookPoint) : List String := (h.at_ point).map Tap.name

def summary (h : Hooks ω) : String :=
  let list (point : HookPoint) :=
    "[" ++ String.intercalate ", " ((h.names point).map Text.visible) ++ "]"
  "CompilerHooks \x7b run: " ++ list .run ++ ", emit: " ++ list .emit ++ ", done: " ++ list .done ++
    " \x7d"

end Hooks

/-- Something that adds call-backs of its own when it is registered. -/
structure Plugin (ω : Type) where
  name : String
  apply : Hooks ω → Hooks ω

def Plugin.ofTaps {ω : Type} (name : String) (taps : List (HookPoint × Tap ω)) : Plugin ω where
  name := name
  apply h := taps.foldl (fun h t => h.tap t.1 t.2) h

end ModuleBundler
