import ModuleBundler.Proofs.Build.Recursion
import ModuleBundler.Proofs.Compile.Closure

/-! Building over a memory ends. Every call that descends adds the name of a stored file, so calls
are nested no deeper than there are files, and the levels that a build starts with are enough. -/
namespace ModuleBundler.BuildConfig

open Build

variable {c : BuildConfig} {cwd : Path} {m : Memory} {entry : String} {path : Path}
  {p q : Progress} {r : Except BuildError Unit}

theorem place_of_draft (t : Path) (d : Draft) (h : (c.sources cwd m.view).draft t = .ok d) :
    t.components ∈ m.files.map Prod.fst :=
  Memory.isFile_view.1 (isFile_of_draft h)

theorem unbuilt_le_fileCount (s : Sources) (m : Memory) (g : Graph) :
    s.unbuilt (m.files.map Prod.fst) g ≤ m.fileCount :=
  Nat.le_trans Sources.unbuilt_le_length (Nat.le_of_eq (List.length_map ..))

theorem visits_iff_outcome : (c.sources cwd m.view).Visits entry [path] p r q ↔
    outcome ((c.sources cwd m.view).buildModule entry ((c.sources cwd m.view).bound + 1) path) p =
      (r, q) := by
  refine Sources.visits_iff place_of_draft ?_
  have hplaces := unbuilt_le_fileCount (c.sources cwd m.view) m p.graph
  have hbound : m.fileCount < (c.sources cwd m.view).bound := length_lt_bound c cwd m
  omega

theorem exists_visits (c : BuildConfig) (cwd : Path) (m : Memory) (entry : String) (path : Path)
    (p : Progress) : ∃ r q, (c.sources cwd m.view).Visits entry [path] p r q :=
  ⟨_, _, visits_iff_outcome.2 rfl⟩

/-- Building over a memory ends, from any graph, with one result, and that is what a build with its
limited levels comes to. A call that makes another is for a stored file, whose name it has added to
the graph, so that calls are nested no deeper than one more than there are files. -/
theorem build_terminates (c : BuildConfig) (cwd : Path) (m : Memory) (entry : String) (path : Path)
    (p : Progress) :
    (∃ r q, (c.sources cwd m.view).Visits entry [path] p r q ∧
      (∀ r' q', (c.sources cwd m.view).Visits entry [path] p r' q' → r' = r ∧ q' = q) ∧
      outcome ((c.sources cwd m.view).build entry path) p =
        (r.map fun _ => (c.sources cwd m.view).name path, q)) ∧
    (∀ a b, (c.sources cwd m.view).Descends entry a b →
      a.path.components ∈ m.files.map Prod.fst ∧
      (c.sources cwd m.view).name a.path ∉ a.progress.graph.names ∧
      (c.sources cwd m.view).name a.path ∈ b.progress.graph.names ∧
      a.progress.graph.names ⊆ b.progress.graph.names) ∧
    ∀ depth call, (c.sources cwd m.view).Nested entry depth ⟨path, p⟩ call →
      depth ≤ m.fileCount + 1 := by
  refine ⟨?_, fun a b h => ?_, fun depth call h => ?_⟩
  · obtain ⟨r, q, h⟩ := exists_visits c cwd m entry path p
    refine ⟨r, q, h, fun r' q' h' => h.unique h', ?_⟩
    have hrun := visits_iff_outcome.1 h
    cases r with
    | ok => exact outcome_bind_ok hrun
    | error e => exact outcome_bind_error hrun
  · obtain ⟨hid, hid', hsub, d, hd⟩ := h.gained
    exact ⟨place_of_draft a.path d hd, hid, hid', hsub⟩
  · -- each call on the way down takes one from the places without modules
    have hdepth := h.add_unbuilt_le place_of_draft
    have hplaces := unbuilt_le_fileCount (c.sources cwd m.view) m p.graph
    dsimp only at hdepth
    omega

end ModuleBundler.BuildConfig
