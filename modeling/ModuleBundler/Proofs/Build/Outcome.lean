import ModuleBundler.Graph.Build

/-! What the steps of a build come to: a result, and the progress that is kept also on failure. -/
namespace ModuleBundler

namespace Progress

def probing (p : Progress) (paths : List Path) : Progress :=
  { p with events := p.events ++ paths.map .probing, looked := p.looked ++ paths }

def reading (p : Progress) (path : Path) : Progress := { p with looked := p.looked ++ [path] }

def noting (p : Progress) (e : Log.Event) : Progress := { p with events := p.events ++ [e] }

def withGraph (p : Progress) (g : Graph) : Progress := { p with graph := g }

@[simp] theorem graph_probing (p : Progress) (paths : List Path) :
    (p.probing paths).graph = p.graph := rfl

@[simp] theorem graph_reading (p : Progress) (path : Path) : (p.reading path).graph = p.graph := rfl

@[simp] theorem graph_noting (p : Progress) (e : Log.Event) : (p.noting e).graph = p.graph := rfl

@[simp] theorem graph_withGraph (p : Progress) (g : Graph) : (p.withGraph g).graph = g := rfl

theorem probing_nil (p : Progress) : p.probing [] = p := by
  simp [probing]

theorem probing_append (p : Progress) (as bs : List Path) :
    p.probing (as ++ bs) = (p.probing as).probing bs := by
  simp [probing]

end Progress

namespace Build

variable {σ α β : Type}

/-- What steps that keep a state come to from a given one: a result, and the state they leave. -/
def outcome (b : ExceptT BuildError (StateM σ) α) (p : σ) : Except BuildError α × σ := b.run.run p

@[simp] theorem outcome_pure (a : α) (p : σ) : outcome (pure a) p = (.ok a, p) := rfl

@[simp] theorem outcome_throw (e : BuildError) (p : σ) :
    outcome (throw e : ExceptT BuildError (StateM σ) α) p = (.error e, p) := rfl

@[simp] theorem outcome_get (p : σ) : outcome get p = (.ok p, p) := rfl

@[simp] theorem outcome_modify (f : σ → σ) (p : σ) : outcome (modify f) p = (.ok ⟨⟩, f p) := rfl

@[simp] theorem outcome_note (e : Log.Event) (p : Progress) :
    outcome (Log.note e) p = (.ok ⟨⟩, p.noting e) := rfl

@[simp] theorem outcome_look (path : Path) (p : Progress) :
    outcome (look path) p = (.ok ⟨⟩, p.reading path) := rfl

@[simp] theorem outcome_settle (r : Except BuildError α) (p : Progress) :
    outcome (settle r) p = (r, p) := by
  cases r <;> rfl

section Bind

variable {b : ExceptT BuildError (StateM σ) α} {f : α → ExceptT BuildError (StateM σ) β} {p q : σ}

theorem outcome_bind (b : ExceptT BuildError (StateM σ) α)
    (f : α → ExceptT BuildError (StateM σ) β) (p : σ) :
    outcome (b >>= f) p =
      match outcome b p with
      | (.ok a, q) => outcome (f a) q
      | (.error e, q) => (.error e, q) := by
  show ExceptT.bindCont f (outcome b p).1 (outcome b p).2 = _
  rcases outcome b p with ⟨_ | _, _⟩ <;> rfl

theorem outcome_bind_ok {a : α} (h : outcome b p = (.ok a, q)) :
    outcome (b >>= f) p = outcome (f a) q := by
  rw [outcome_bind, h]

theorem outcome_bind_error {e : BuildError} (h : outcome b p = (.error e, q)) :
    outcome (b >>= f) p = (.error e, q) := by
  rw [outcome_bind, h]

theorem outcome_bind_eq_ok {c : β} (h : outcome (b >>= f) p = (.ok c, q)) :
    ∃ a p', outcome b p = (.ok a, p') ∧ outcome (f a) p' = (.ok c, q) := by
  rw [outcome_bind] at h
  rcases hb : outcome b p with ⟨e | a, p'⟩
  · rw [hb] at h
    cases h
  · rw [hb] at h
    exact ⟨a, p', rfl, h⟩

end Bind

section Except

variable {ε : Type} {a : Except ε α} {f : α → Except ε β}

theorem bind_eq_ok {b : β} : a >>= f = .ok b ↔ ∃ x, a = .ok x ∧ f x = .ok b := by
  cases a with
  | error e => exact ⟨fun h => (nomatch h), fun ⟨_, h, _⟩ => nomatch h⟩
  | ok x => exact ⟨fun h => ⟨x, rfl, h⟩, fun ⟨_, hx, h⟩ => Except.ok.inj hx ▸ h⟩

theorem bind_eq_error {e : ε} :
    a >>= f = .error e ↔ a = .error e ∨ ∃ x, a = .ok x ∧ f x = .error e := by
  cases a with
  | error e' =>
    constructor
    · intro h
      cases h
      exact .inl rfl
    · rintro (h | ⟨x, h, -⟩)
      · cases h
        rfl
      · cases h
  | ok x =>
    constructor
    · exact fun h => .inr ⟨x, rfl, h⟩
    · rintro (h | ⟨_, hx, h⟩)
      · cases h
      · cases hx
        exact h

end Except

theorem outcome_timed [Log.Recorder σ] {activity : String} {b : ExceptT BuildError (StateM σ) α}
    {p q : σ} {r : Except BuildError α}
    (h : outcome b (Log.Recorder.record (.started activity) p) = (r, q)) :
    outcome (Log.timed activity b) p = (r, Log.Recorder.record (.completed activity) q) := by
  show ((outcome b (Log.Recorder.record (.started activity) p)).1,
    Log.Recorder.record (.completed activity)
      (outcome b (Log.Recorder.record (.started activity) p)).2) = _
  rw [h]

end Build

end ModuleBundler
