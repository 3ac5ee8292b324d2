import ModuleBundler.Compile
import ModuleBundler.Proofs.Build.Descent

/-! When a compilation succeeds and what its report is then: the graph that the entries leave, a
chunk for each entry, and an output file for each chunk. -/
namespace ModuleBundler.BuildConfig

open Build

section Emission

variable {output : Output} {assets : List (String × String)} {chunks : List Chunk} {p q : Progress}

def asset (output : Output) (c : Chunk) : String × String := (output.fileFor c.name, c.script)

def emitted (output : Output) (c : Chunk) (p : Progress) : Progress :=
  ((p.noting (.started ("Emitting chunk " ++ c.name))).noting
    (.completed ("Emitting chunk " ++ c.name))).noting
      (.chunkEmitted (output.fileFor c.name) c.modules.length c.script.utf8ByteSize)

theorem outcome_emit_error {c : Chunk} (h : output.fileFor c.name ∈ assets.map Prod.fst) :
    outcome (emit output assets c) p =
      (.error (.config (.sharedFile (output.fileFor c.name))), p) := by
  simp only [emit, if_pos (Keyed.get?_isSome.2 h)]
  rfl

theorem outcome_emit_ok {c : Chunk} (h : output.fileFor c.name ∉ assets.map Prod.fst) :
    outcome (emit output assets c) p = (.ok (assets ++ [asset output c]), emitted output c p) := by
  simp only [emit, if_neg (mt Keyed.get?_isSome.1 h)]
  rfl

theorem outcome_foldlM_emit (output : Output) (assets : List (String × String))
    (chunks : List Chunk) (p : Progress) (h : (assets.map Prod.fst).Nodup) :
    (∃ q, outcome (chunks.foldlM (emit output) assets) p =
          (.ok (assets ++ chunks.map (asset output)), q)) ∧
        ((assets ++ chunks.map (asset output)).map Prod.fst).Nodup ∨
      (∃ file q, outcome (chunks.foldlM (emit output) assets) p =
          (.error (.config (.sharedFile file)), q)) ∧
        ¬ ((assets ++ chunks.map (asset output)).map Prod.fst).Nodup := by
  induction chunks generalizing assets p with
  | nil => exact .inl ⟨⟨p, by simp⟩, by simpa using h⟩
  | cons c more ih =>
    rw [List.foldlM_cons]
    by_cases hfile : output.fileFor c.name ∈ assets.map Prod.fst
    · -- the file was emitted before, so it comes twice among all
      refine .inr ⟨⟨_, p, outcome_bind_error (outcome_emit_error hfile)⟩, fun hnd => ?_⟩
      rw [List.map_append, List.nodup_append] at hnd
      exact hnd.2.2 _ hfile _ (List.mem_map_of_mem List.mem_cons_self) rfl
    · have hnd : ((assets ++ [asset output c]).map Prod.fst).Nodup := by
        rw [List.map_append, List.nodup_append]
        refine ⟨h, by simp, fun a ha b hb hab => hfile ?_⟩
        rw [hab, List.mem_singleton.1 hb] at ha
        exact ha
      rw [outcome_bind_ok (outcome_emit_ok hfile), List.map_cons,
        List.append_cons assets (asset output c) (more.map (asset output))]
      exact ih _ _ hnd

end Emission

def begun (c : BuildConfig) (cwd : Path) : Progress :=
  ⟨.empty, [.buildStarted (c.root cwd) c.entries.length, .started "Building module graph"], []⟩

def reportOn (c : BuildConfig) (entries : List Entry) (g : Graph) : Report :=
  let chunks := entries.filterMap (chunkOf g)
  let assets := chunks.map (asset c.output)
  ⟨entries, g.modules, assets.map (·.1), assets, chunks⟩

variable {c : BuildConfig} {cwd : Path} {files : Files}

theorem compile_of_empty (h : c.entries = []) :
    c.compile cwd files = (.error (.config .noEntry), ⟨.empty, [], []⟩) := by
  simp only [compile, compileSteps, h, List.isEmpty_nil, if_pos]
  rfl

theorem compile_eq (h : c.entries ≠ []) :
    c.compile cwd files =
      outcome (Log.timed "Building module graph" (c.buildEntries cwd files) >>= fun entries => do
        let graph := (← get).graph
        let chunks := entries.filterMap (chunkOf graph)
        let assets ← chunks.foldlM (emit c.output) []
        return ⟨entries, graph.modules, assets.map (·.1), assets, chunks⟩)
      ⟨.empty, [.buildStarted (c.root cwd) c.entries.length], []⟩ := by
  have hne : c.entries.isEmpty = false := by simpa using h
  simp only [compile, compileSteps, hne]
  rfl

theorem compile_of_error (h : c.entries ≠ []) {e : BuildError} {q : Progress}
    (hbuild : outcome (c.buildEntries cwd files) (c.begun cwd) = (.error e, q)) :
    c.compile cwd files = (.error e, q.noting (.completed "Building module graph")) := by
  rw [compile_eq h]
  exact outcome_bind_error (outcome_timed hbuild)

theorem compile_emits (h : c.entries ≠ []) {entries : List Entry} {q : Progress}
    (hbuild : outcome (c.buildEntries cwd files) (c.begun cwd) = (.ok entries, q)) :
    c.compile cwd files =
      outcome ((entries.filterMap (chunkOf q.graph)).foldlM (emit c.output) [] >>= fun assets =>
        pure ⟨entries, q.graph.modules, assets.map (·.1), assets,
          entries.filterMap (chunkOf q.graph)⟩)
        (q.noting (.completed "Building module graph")) := by
  rw [compile_eq h, outcome_bind_ok (outcome_timed hbuild), outcome_bind_ok (outcome_get _)]
  rfl

theorem compile_of_built (h : c.entries ≠ []) {entries : List Entry} {q : Progress}
    (hbuild : outcome (c.buildEntries cwd files) (c.begun cwd) = (.ok entries, q)) :
    (∃ p, c.compile cwd files = (.ok (c.reportOn entries q.graph), p)) ∧
        ((c.reportOn entries q.graph).assets.map Prod.fst).Nodup ∨
      (∃ file p, c.compile cwd files = (.error (.config (.sharedFile file)), p)) ∧
        ¬ ((c.reportOn entries q.graph).assets.map Prod.fst).Nodup := by
  rw [compile_emits h hbuild]
  rcases outcome_foldlM_emit c.output [] (entries.filterMap (chunkOf q.graph))
      (q.noting (.completed "Building module graph")) List.nodup_nil with
    ⟨⟨p, hemit⟩, hnd⟩ | ⟨⟨file, p, hemit⟩, hnd⟩
  · exact .inl ⟨⟨p, outcome_bind_ok hemit⟩, hnd⟩
  · exact .inr ⟨⟨file, p, outcome_bind_error hemit⟩, hnd⟩

theorem built_of_compile {report : Report} {p : Progress}
    (h : c.compile cwd files = (.ok report, p)) :
    c.entries ≠ [] ∧ ∃ entries q,
      outcome (c.buildEntries cwd files) (c.begun cwd) = (.ok entries, q) ∧
        report = c.reportOn entries q.graph ∧ (report.assets.map Prod.fst).Nodup := by
  have hne : c.entries ≠ [] := by
    intro hempty
    rw [compile_of_empty hempty] at h
    cases h
  refine ⟨hne, ?_⟩
  rcases hbuild : outcome (c.buildEntries cwd files) (c.begun cwd) with ⟨e | entries, q⟩
  · rw [compile_of_error hne hbuild] at h
    cases h
  · rcases compile_of_built hne hbuild with ⟨⟨p', hok⟩, hnd⟩ | ⟨⟨file, p', herr⟩, -⟩
    · rw [hok] at h
      cases h
      exact ⟨entries, q, rfl, rfl, hnd⟩
    · rw [herr] at h
      cases h

section Process

variable {current : Except IoCause Path} {report : Report} {e : BuildError}

theorem isAbsolute_of_origin (hcurrent : ∀ cwd, current = .ok cwd → cwd.isAbsolute)
    (h : c.origin current = .ok cwd) : cwd.isAbsolute := by
  unfold origin at h
  split at h
  · next habsolute => exact Except.ok.inj h ▸ habsolute
  · split at h
    · next cwd' => exact hcurrent cwd (congrArg _ (Except.ok.inj h))
    · cases h

theorem compileIn_of_origin (h : c.origin current = .ok cwd) :
    c.compileIn current files = c.compile cwd files := by
  rw [compileIn, h]

theorem origin_of_compileIn (h : (c.compileIn current files).1 = .ok report) :
    ∃ cwd, c.origin current = .ok cwd ∧ (c.compile cwd files).1 = .ok report := by
  cases horigin : c.origin current with
  | ok cwd => exact ⟨cwd, rfl, compileIn_of_origin horigin ▸ h⟩
  | error e =>
    rw [compileIn, horigin] at h
    cases h

end Process

end ModuleBundler.BuildConfig
