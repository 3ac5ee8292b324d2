import ModuleBundler.Proofs.Compile.Success

/-! Building the entries one after the other, over one graph. -/
namespace ModuleBundler

open Build

namespace Sources

def entry (s : Sources) (e : String × Path) : Entry := ⟨e.1, s.name e.2⟩

def buildEntry (s : Sources) (e : String × Path) : Build Entry := do
  return ⟨e.1, ← s.build e.1 e.2⟩

variable {s : Sources} {e : String × Path} {more : List (String × Path)} {p p' q : Progress}

theorem outcome_buildEntry_ok
    (h : outcome (s.buildModule e.1 (s.bound + 1) e.2) p = (.ok ⟨⟩, q)) :
    outcome (s.buildEntry e) p = (.ok (s.entry e), q) :=
  outcome_bind_ok (outcome_bind_ok h)

theorem outcome_buildEntry_error {err : BuildError}
    (h : outcome (s.buildModule e.1 (s.bound + 1) e.2) p = (.error err, q)) :
    outcome (s.buildEntry e) p = (.error err, q) :=
  outcome_bind_error (outcome_bind_error h)

theorem outcome_buildEntries_error {err : BuildError}
    (h : outcome (s.buildModule e.1 (s.bound + 1) e.2) p = (.error err, q)) :
    outcome ((e :: more).mapM s.buildEntry) p = (.error err, q) := by
  rw [List.mapM_cons]
  exact outcome_bind_error (outcome_buildEntry_error h)

theorem outcome_buildEntries_ok {r : Except BuildError (List Entry)}
    (h : outcome (s.buildModule e.1 (s.bound + 1) e.2) p = (.ok ⟨⟩, p'))
    (hmore : outcome (more.mapM s.buildEntry) p' = (r, q)) :
    outcome ((e :: more).mapM s.buildEntry) p = (r.map (s.entry e :: ·), q) := by
  rw [List.mapM_cons, outcome_bind_ok (outcome_buildEntry_ok h)]
  cases r with
  | error err => exact outcome_bind_error hmore
  | ok rest => exact outcome_bind_ok hmore

theorem buildEntries_cases {r : Except BuildError (List Entry)}
    (h : outcome ((e :: more).mapM s.buildEntry) p = (r, q)) :
    (∃ err, outcome (s.buildModule e.1 (s.bound + 1) e.2) p = (.error err, q) ∧
      r = .error err) ∨
    ∃ p' rest, outcome (s.buildModule e.1 (s.bound + 1) e.2) p = (.ok ⟨⟩, p') ∧
      outcome (more.mapM s.buildEntry) p' = (rest, q) ∧ r = rest.map (s.entry e :: ·) := by
  rcases hbuild : outcome (s.buildModule e.1 (s.bound + 1) e.2) p with ⟨err | ⟨⟩, p'⟩
  · rw [outcome_buildEntries_error hbuild] at h
    cases h
    exact .inl ⟨err, rfl, rfl⟩
  · rcases hmore : outcome (more.mapM s.buildEntry) p' with ⟨rest, q'⟩
    rw [outcome_buildEntries_ok hbuild hmore] at h
    cases h
    exact .inr ⟨p', rest, rfl, hmore, rfl⟩

theorem buildEntries_cons_ok {entries : List Entry}
    (h : outcome ((e :: more).mapM s.buildEntry) p = (.ok entries, q)) :
    ∃ p' rest, outcome (s.buildModule e.1 (s.bound + 1) e.2) p = (.ok ⟨⟩, p') ∧
      outcome (more.mapM s.buildEntry) p' = (.ok rest, q) ∧ entries = s.entry e :: rest := by
  obtain ⟨err, -, hr⟩ | ⟨p', err | rest, hbuild, hmore, hr⟩ := buildEntries_cases h
  · cases hr
  · cases hr
  · cases hr
    exact ⟨p', rest, hbuild, hmore, rfl⟩

theorem buildEntries_invariant {es : List (String × Path)} {entries : List Entry}
    {I : List (String × Path) → Graph → Prop}
    (h : outcome (es.mapM s.buildEntry) p = (.ok entries, q)) (start : I [] p.graph)
    (step : ∀ done e more p q, es = done ++ e :: more → I done p.graph →
      outcome (s.buildModule e.1 (s.bound + 1) e.2) p = (.ok ⟨⟩, q) → I (done ++ [e]) q.graph) :
    entries = es.map s.entry ∧ I es q.graph := by
  have key : ∀ rest done p entries, es = done ++ rest → I done p.graph →
      outcome (rest.mapM s.buildEntry) p = (.ok entries, q) →
        entries = rest.map s.entry ∧ I es q.graph := by
    intro rest
    induction rest with
    | nil =>
      intro done p entries hes hI hout
      cases hout
      exact ⟨rfl, by rwa [hes, List.append_nil]⟩
    | cons e more ih =>
      intro done p entries hes hI hout
      obtain ⟨p', rest', hbuild, hrest, rfl⟩ := buildEntries_cons_ok hout
      obtain ⟨rfl, hI'⟩ := ih (done ++ [e]) p' rest' (by simp [hes])
        (step done e more p p' hes hI hbuild) hrest
      exact ⟨rfl, hI'⟩
  exact key es [] p entries rfl start h

theorem buildEntries_ok {es : List (String × Path)} {I : List (String × Path) → Graph → Prop}
    (start : I [] p.graph)
    (step : ∀ done e more p, es = done ++ e :: more → I done p.graph →
      ∃ q, outcome (s.buildModule e.1 (s.bound + 1) e.2) p = (.ok ⟨⟩, q) ∧
        I (done ++ [e]) q.graph) :
    ∃ q, outcome (es.mapM s.buildEntry) p = (.ok (es.map s.entry), q) ∧ I es q.graph := by
  have key : ∀ rest done p, es = done ++ rest → I done p.graph →
      ∃ q, outcome (rest.mapM s.buildEntry) p = (.ok (rest.map s.entry), q) ∧ I es q.graph := by
    intro rest
    induction rest with
    | nil => exact fun done p hes hI => ⟨p, rfl, by rwa [hes, List.append_nil]⟩
    | cons e more ih =>
      intro done p hes hI
      obtain ⟨p', hbuild, hI'⟩ := step done e more p hes hI
      obtain ⟨q, hmore, hq⟩ := ih (done ++ [e]) p' (by simp [hes]) hI'
      exact ⟨q, outcome_buildEntries_ok hbuild hmore, hq⟩
  exact key es [] p rfl start

end Sources

namespace BuildConfig

variable {c : BuildConfig} {cwd : Path} {files : Files}

theorem buildEntries_eq : c.buildEntries cwd files =
    (c.entryPaths cwd).mapM (c.sources cwd files).buildEntry := rfl

theorem map_fst_entryPaths (c : BuildConfig) (cwd : Path) :
    (c.entryPaths cwd).map Prod.fst = c.entries.map Prod.fst := by
  simp [entryPaths]

theorem map_name_entries (c : BuildConfig) (cwd : Path) (files : Files) :
    ((c.entryPaths cwd).map (c.sources cwd files).entry).map Entry.name =
      c.entries.map Prod.fst := by
  rw [← map_fst_entryPaths c cwd, List.map_map]
  rfl

theorem report_invariant {report : Report} {p : Progress}
    (h : c.compile cwd files = (.ok report, p)) {I : List (String × Path) → Graph → Prop}
    (start : I [] .empty)
    (step : ∀ done e more p q, c.entryPaths cwd = done ++ e :: more → I done p.graph →
      outcome ((c.sources cwd files).buildModule e.1 ((c.sources cwd files).bound + 1) e.2) p =
        (.ok ⟨⟩, q) → I (done ++ [e]) q.graph) :
    ∃ g, report = c.reportOn ((c.entryPaths cwd).map (c.sources cwd files).entry) g ∧
      I (c.entryPaths cwd) g := by
  obtain ⟨-, entries, q, hbuild, rfl, -⟩ := built_of_compile h
  rw [buildEntries_eq] at hbuild
  obtain ⟨rfl, hI⟩ := Sources.buildEntries_invariant hbuild start step
  exact ⟨q.graph, rfl, hI⟩

end BuildConfig

end ModuleBundler
