import ModuleBundler.Proofs.Build.Record
import ModuleBundler.Proofs.Compile.Ownership

/-! What a compilation has recorded when it ends: which modules it built, which it found built
already, and how many times. Emission adds nothing to this. -/
namespace ModuleBundler

open Build

namespace Progress

open Log

/-- Two stages of a build between which nothing was done for a module. -/
structure Alike (p q : Progress) : Prop where
  graph_eq : q.graph = p.graph
  looked_eq : q.looked = p.looked
  built_eq : q.built = p.built
  reused_eq : q.reused = p.reused
  probed_eq : q.probed = p.probed

theorem Alike.refl (p : Progress) : Alike p p := ⟨rfl, rfl, rfl, rfl, rfl⟩

theorem Alike.trans {p q r : Progress} (h : Alike p q) (h' : Alike q r) : Alike p r where
  graph_eq := h'.graph_eq.trans h.graph_eq
  looked_eq := h'.looked_eq.trans h.looked_eq
  built_eq := h'.built_eq.trans h.built_eq
  reused_eq := h'.reused_eq.trans h.reused_eq
  probed_eq := h'.probed_eq.trans h.probed_eq

theorem Alike.noting (p : Progress) {e : Event} (hbuilt : e.built? = none)
    (hreused : e.reused? = none) (hprobed : e.probed? = none) : Alike p (p.noting e) where
  graph_eq := rfl
  looked_eq := rfl
  built_eq := by
    simp [built, Progress.noting, hbuilt]
  reused_eq := by
    simp [reused, Progress.noting, hreused]
  probed_eq := by
    simp [probed, Progress.noting, hprobed]

end Progress

namespace Sources

variable {s : Sources} {p q : Progress}

theorem Recorded.alike {read : List String} (h : s.Recorded read p) (ha : p.Alike q) :
    s.Recorded read q where
  built_eq := by
    rw [ha.built_eq, ha.graph_eq]
    exact h.built_eq
  looked_perm := by
    rw [ha.looked_eq, ha.probed_eq]
    exact h.looked_perm

theorem recorded_buildEntries (s : Sources) (es : List (String × Path)) (p : Progress)
    (h : s.Recorded p.graph.names p) :
    ∃ read, s.Recorded read (outcome (es.mapM s.buildEntry) p).2 ∧ read.Nodup := by
  induction es generalizing p with
  | nil => exact ⟨_, h, p.graph.names_nodup⟩
  | cons e more ih =>
    obtain ⟨read, hrecorded, hnodup, hread⟩ := recorded_buildModule s e.1 (s.bound + 1) e.2 p h
    rcases hout : outcome ((e :: more).mapM s.buildEntry) p with ⟨r, q⟩
    obtain ⟨err, hbuild, -⟩ | ⟨p', rest, hbuild, hrest, -⟩ := buildEntries_cases hout
    · rw [hbuild] at hrecorded
      exact ⟨read, hrecorded, hnodup⟩
    · rw [hbuild] at hrecorded hread
      have hmore := ih p' (hread rfl ▸ hrecorded)
      rwa [hrest] at hmore

theorem counted_buildEntries {es : List (String × Path)} {entries : List Entry}
    (h : outcome (es.mapM s.buildEntry) p = (.ok entries, q)) : Counted es.length p q := by
  induction es generalizing p entries with
  | nil =>
    cases h
    exact Counted.none _
  | cons e more ih =>
    obtain ⟨p', rest, hbuild, hrest, -⟩ := buildEntries_cons_ok h
    have hcalls := (counted_buildModule hbuild).trans (ih hrest)
    rwa [Nat.add_comm] at hcalls

end Sources

namespace BuildConfig

variable {c : BuildConfig} {cwd : Path} {files : Files}

theorem alike_emitAll (output : Output) (chunks : List Chunk) (assets : List (String × String))
    (p : Progress) : p.Alike (outcome (chunks.foldlM (emit output) assets) p).2 := by
  induction chunks generalizing assets p with
  | nil => exact .refl p
  | cons chunk more ih =>
    rw [List.foldlM_cons]
    by_cases hfile : output.fileFor chunk.name ∈ assets.map Prod.fst
    · rw [outcome_bind_error (outcome_emit_error hfile)]
      exact .refl p
    · rw [outcome_bind_ok (outcome_emit_ok hfile)]
      have hemitted : p.Alike (emitted output chunk p) :=
        ((Progress.Alike.noting p rfl rfl rfl).trans (.noting _ rfl rfl rfl)).trans
          (.noting _ rfl rfl rfl)
      exact hemitted.trans (ih _ _)

theorem alike_compile (h : c.entries ≠ []) {r : Except BuildError (List Entry)} {q : Progress}
    (hbuild : outcome (c.buildEntries cwd files) (c.begun cwd) = (r, q)) :
    q.Alike (c.compile cwd files).2 ∧
      ∀ report, (c.compile cwd files).1 = .ok report →
        (∃ entries, r = .ok entries) ∧ report.modules = q.graph.modules := by
  have hcompleted : q.Alike (q.noting (.completed "Building module graph")) :=
    .noting q rfl rfl rfl
  rcases r with e | entries
  · rw [compile_of_error h hbuild]
    exact ⟨hcompleted, fun _ hr => nomatch hr⟩
  · have hcompile := compile_emits h hbuild
    generalize entries.filterMap (chunkOf q.graph) = chunks at hcompile
    have hemit := alike_emitAll c.output chunks [] (q.noting (.completed "Building module graph"))
    rw [hcompile]
    rcases hassets : outcome (chunks.foldlM (emit c.output) [])
        (q.noting (.completed "Building module graph")) with ⟨e | assets, p⟩
    · rw [hassets] at hemit
      rw [outcome_bind_error hassets]
      exact ⟨hcompleted.trans hemit, fun _ hr => nomatch hr⟩
    · rw [hassets] at hemit
      rw [outcome_bind_ok hassets]
      refine ⟨hcompleted.trans hemit, fun report hr => ⟨⟨entries, rfl⟩, ?_⟩⟩
      cases hr
      rfl

/-- Each module is built once, and every other call for it finds it built. No file is read under a
name twice, also when the compilation fails. -/
theorem compile_builds_once (c : BuildConfig) (cwd : Path) (files : Files) :
    ((c.compile cwd files).2.built.map Prod.fst).Nodup ∧
    (∃ paths, (c.compile cwd files).2.looked.Perm ((c.compile cwd files).2.probed ++ paths) ∧
      (paths.map (Path.moduleId (c.root cwd))).Nodup) ∧
    ∀ report, (c.compile cwd files).1 = .ok report →
      (c.compile cwd files).2.built =
        report.modules.map (fun m => (m.id, m.dependencies.length)) ∧
      (c.compile cwd files).2.reused.length + report.modules.length =
        c.entries.length + (report.modules.map fun m => m.dependencies.length).sum := by
  by_cases hne : c.entries = []
  · rw [compile_of_empty hne]
    exact ⟨List.nodup_nil, ⟨[], .nil, List.nodup_nil⟩, fun _ hr => nomatch hr⟩
  rcases hbuild : outcome (c.buildEntries cwd files) (c.begun cwd) with ⟨r, q⟩
  obtain ⟨halike, hreport⟩ := alike_compile hne hbuild
  have hstart : (c.sources cwd files).Recorded (c.begun cwd).graph.names (c.begun cwd) :=
    ⟨rfl, [], .nil, rfl⟩
  obtain ⟨read, hrecorded, hnodup⟩ := (c.sources cwd files).recorded_buildEntries
    (c.entryPaths cwd) (c.begun cwd) hstart
  rw [← buildEntries_eq, hbuild] at hrecorded
  have hend := hrecorded.alike halike
  refine ⟨?_, ?_, fun report hr => ⟨?_, ?_⟩⟩
  · rw [hend.built_eq, Graph.map_fst_sizes]
    exact Graph.names_nodup _
  · obtain ⟨paths, hperm, hread⟩ := hend.looked_perm
    exact ⟨paths, hperm, hread ▸ hnodup⟩
  · rw [hend.built_eq, halike.graph_eq, (hreport report hr).2]
    rfl
  · obtain ⟨⟨entries, rfl⟩, hmodules⟩ := hreport report hr
    -- every call has built a module or reused one
    have hcounted := Sources.counted_buildEntries hbuild
    have hcalls : (c.entryPaths cwd).length = c.entries.length := by
      have hnames := congrArg List.length (map_fst_entryPaths c cwd)
      simpa only [List.length_map] using hnames
    have hsize : q.graph.size = report.modules.length := by
      rw [hmodules]
      rfl
    have hedges : q.graph.edges = (report.modules.map fun m => m.dependencies.length).sum := by
      rw [hmodules, Graph.edges, List.length_flatMap]
    rw [Sources.Counted, hcalls, hsize, hedges, ← halike.reused_eq] at hcounted
    have hfresh : (c.begun cwd).reused.length = 0 ∧ (c.begun cwd).graph.size = 0 ∧
        (c.begun cwd).graph.edges = 0 := ⟨rfl, rfl, rfl⟩
    omega

/-- Four entries and five dependencies make nine calls, of which four build a module. -/
theorem compile_builds_once_sample :
    ∃ report p, sampleConfig.compile (.ofString "/") sampleFiles.view = (.ok report, p) ∧
      p.built = [("./a.js", 2), ("./b.js", 1), ("./u.js", 1), ("./v.js", 1)] ∧
      p.reused.length = 5 := by
  have hsizes : (sampleConfig.compile (.ofString "/") sampleFiles.view).1.toOption.map
      (fun r => r.modules.map fun m => (m.id, m.dependencies.length)) =
        some [("./a.js", 2), ("./b.js", 1), ("./u.js", 1), ("./v.js", 1)] := by
    decide +kernel
  obtain ⟨report, p, h, hsizes⟩ := report_of_toOption hsizes
  obtain ⟨-, -, hreport⟩ := compile_builds_once sampleConfig (.ofString "/") sampleFiles.view
  rw [h] at hreport
  obtain ⟨hbuilt, hreused⟩ := hreport report rfl
  have hdependencies : (report.modules.map fun m => m.dependencies.length) = [2, 1, 1, 1] := by
    have hsecond := congrArg (List.map Prod.snd) hsizes
    rwa [List.map_map] at hsecond
  have hmodules : report.modules.length = 4 := by
    have hlength := congrArg List.length hsizes
    rwa [List.length_map] at hlength
  have hentries : sampleConfig.entries.length = 4 := rfl
  rw [hdependencies, hmodules, hentries] at hreused
  exact ⟨report, p, h, hbuilt.trans hsizes, Nat.add_right_cancel hreused⟩

end BuildConfig

end ModuleBundler
