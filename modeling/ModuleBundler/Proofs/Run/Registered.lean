import ModuleBundler.Proofs.Run.Outcome

/-! How call-backs come to be called: directly, or by plugins that add some when they are
registered. At each point the call-backs stand in the order in which they were added, whoever added
them. -/
namespace ModuleBundler

variable {ω : Type}

def Tap.at_ (point : HookPoint) (added : List (HookPoint × Tap ω)) : List (Tap ω) :=
  (added.filter fun t => t.1 = point).map Prod.snd

def Hooks.tapAll (h : Hooks ω) (added : List (HookPoint × Tap ω)) : Hooks ω :=
  added.foldl (fun h t => h.tap t.1 t.2) h

theorem Hooks.tapAll_append (h : Hooks ω) (added more : List (HookPoint × Tap ω)) :
    h.tapAll (added ++ more) = (h.tapAll added).tapAll more :=
  List.foldl_append

theorem Hooks.at_tapAll (h : Hooks ω) (added : List (HookPoint × Tap ω)) (point : HookPoint) :
    (h.tapAll added).at_ point = h.at_ point ++ Tap.at_ point added := by
  induction added generalizing h with
  | nil => simp [Hooks.tapAll, Tap.at_]
  | cons t more ih =>
    have hmore := ih (h.tap t.1 t.2)
    rw [Hooks.at_tap] at hmore
    by_cases hpoint : t.1 = point
    · simpa [Hooks.tapAll, Tap.at_, hpoint] using hmore
    · simpa [Hooks.tapAll, Tap.at_, hpoint] using hmore

namespace Compiler

/-- What can be done to a compiler before it runs, and the call-backs that this has added, in their
order. What a plugin adds may depend on the call-backs that it finds. -/
inductive Registers (start : Compiler ω) : List (HookPoint × Tap ω) → Compiler ω → Prop where
  | nil : Registers start [] start
  | tap {added : List (HookPoint × Tap ω)} {c : Compiler ω} (h : Registers start added c)
      (point : HookPoint) (t : Tap ω) : Registers start (added ++ [(point, t)]) (c.tap point t)
  | plugin {added : List (HookPoint × Tap ω)} {c : Compiler ω} (h : Registers start added c)
      (p : Plugin ω) (more : List (HookPoint × Tap ω))
      (happly : p.apply c.hooks = c.hooks.tapAll more) :
      Registers start (added ++ more) (c.withPlugin p)

variable {start c : Compiler ω} {added : List (HookPoint × Tap ω)}

theorem Registers.config_eq (h : Registers start added c) : c.config = start.config := by
  induction h with
  | nil => rfl
  | tap _ _ _ ih => exact ih
  | plugin _ _ _ _ ih => exact ih

theorem Registers.current_eq (h : Registers start added c) : c.current = start.current := by
  induction h with
  | nil => rfl
  | tap _ _ _ ih => exact ih
  | plugin _ _ _ _ ih => exact ih

theorem Registers.hooks_eq (h : Registers start added c) :
    c.hooks = start.hooks.tapAll added := by
  induction h with
  | nil => rfl
  | tap _ point t ih =>
    rw [Hooks.tapAll_append, ← ih]
    rfl
  | plugin _ p more happly ih =>
    rw [Hooks.tapAll_append, ← ih, ← happly]
    rfl

end Compiler

end ModuleBundler
