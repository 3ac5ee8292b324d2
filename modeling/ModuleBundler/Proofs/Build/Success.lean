import Mathlib.Data.List.Nodup
import Mathlib.Data.List.Perm.Subperm
import ModuleBundler.Proofs.Build.Needed
import ModuleBundler.Proofs.Path.Name

/-! When building a module succeeds: if every file that it needs can be built. Each level on the way
down adds a module at a new place, so the levels last as long as there are places. -/
namespace ModuleBundler

open Build

namespace Sources

variable {s : Sources} {roots : List Path} {places : List (List Component)} {entry : String}
  {path : Path} {p q : Progress}

theorem Made.length_lt {g : Graph} (h : s.Made roots g.modules)
    (hplaces : ∀ t d, s.draft t = .ok d → t.components ∈ places) {d : Draft}
    (hd : s.draft path = .ok d) (hid : s.name path ∉ g.names) :
    g.modules.length < places.length := by
  -- the modules are at different places, and the new file is at none of them
  have hname : ∀ m ∈ g.modules, m.id = s.name m.path := fun m hm =>
    (h.gives m hm).elim fun _ hgives => hgives.id_eq
  have hnd : (g.modules.map fun m => m.path.components).Nodup := by
    refine List.Nodup.map_on (fun m hm n hn heq => ?_) (List.Nodup.of_map _ g.names_nodup)
    refine Module.eq_of_id_eq g.names_nodup hm hn ?_
    rw [hname m hm, hname n hn]
    exact Path.moduleId_congr s.root heq
  have hnew : path.components ∉ g.modules.map fun m => m.path.components := by
    intro hmem
    obtain ⟨m, hm, heq⟩ := List.mem_map.1 hmem
    refine hid (List.mem_map.2 ⟨m, hm, ?_⟩)
    rw [hname m hm]
    exact Path.moduleId_congr s.root heq
  have hsub : (path.components :: g.modules.map fun m => m.path.components) ⊆ places := by
    refine List.cons_subset.2 ⟨hplaces path d hd, fun place hmem => ?_⟩
    obtain ⟨m, hm, rfl⟩ := List.mem_map.1 hmem
    obtain ⟨d, hd⟩ := h.gives m hm
    exact hplaces m.path d hd.draft_eq
  have hlength := (List.subperm_of_subset (List.nodup_cons.2 ⟨hnew, hnd⟩) hsub).length_le
  rw [List.length_cons, List.length_map] at hlength
  exact hlength

theorem forM_buildModule_ok {levels : Nat}
    (hone : ∀ {path : Path} {p : Progress}, places.length < levels + p.graph.modules.length →
      s.Traced roots p.graph.modules path → s.Made roots p.graph.modules →
      ∃ q, outcome (s.buildModule entry levels path) p = (.ok ⟨⟩, q))
    {paths : List Path} (hlevels : places.length < levels + p.graph.modules.length)
    (htraced : ∀ t ∈ paths, s.Traced roots p.graph.modules t)
    (hmade : s.Made roots p.graph.modules) :
    ∃ q, outcome (paths.forM (s.buildModule entry levels)) p = (.ok ⟨⟩, q) := by
  induction paths generalizing p with
  | nil => exact ⟨p, rfl⟩
  | cons t more ih =>
    obtain ⟨ht, hmore⟩ := List.forall_mem_cons.1 htraced
    obtain ⟨q, hq⟩ := hone hlevels ht hmade
    have hgrows := (serves_buildModule hq).grows
    have hlonger : p.graph.modules.length ≤ q.graph.modules.length := by
      simpa using hgrows.names_prefix.length_le
    obtain ⟨q', hq'⟩ := ih (by omega)
      (fun u hu => (hmore u hu).mono (List.Subset.refl roots) hgrows.paths_subset)
      (made_buildModule hq ht hmade)
    refine ⟨q', ?_⟩
    rw [List.forM_eq_forM] at hq' ⊢
    rw [List.forM_cons, outcome_bind_ok hq, hq']

/-- A module is built if all that it needs can be, with levels for all places without modules. -/
theorem buildModule_ok (places : List (List Component)) (hall : s.Buildable roots)
    (hplaces : ∀ t d, s.draft t = .ok d → t.components ∈ places) {levels : Nat}
    (hlevels : places.length < levels + p.graph.modules.length)
    (hpath : s.Traced roots p.graph.modules path) (hmade : s.Made roots p.graph.modules) :
    ∃ q, outcome (s.buildModule entry levels path) p = (.ok ⟨⟩, q) := by
  induction levels generalizing path p with
  | zero =>
    by_cases hid : s.name path ∈ p.graph.names
    · exact ⟨_, outcome_buildModule_known hid 0⟩
    · obtain ⟨d, hd⟩ := hall path hpath.needed
      have := hmade.length_lt hplaces hd hid
      omega
  | succ levels ih =>
    by_cases hid : s.name path ∈ p.graph.names
    · exact ⟨_, outcome_buildModule_known hid (levels + 1)⟩
    · obtain ⟨d, hd⟩ := hall path hpath.needed
      rw [outcome_buildModule_found hid hd]
      have hmods := Graph.modules_insert (m := d.module s entry path) hid
      have hlength : places.length <
          levels + (p.graph.insert (d.module s entry path)).modules.length := by
        rw [hmods, List.length_append, List.length_singleton]
        omega
      exact forM_buildModule_ok ih hlength
        (fun t ht => hmade.traced_paths entry hid hd hpath ht) (hmade.insert entry hid hd hpath)

theorem known_or_draft {levels : Nat}
    (h : outcome (s.buildModule entry levels path) p = (.ok ⟨⟩, q)) :
    s.name path ∈ p.graph.names ∨ ∃ d, s.draft path = .ok d := by
  by_contra hneither
  obtain ⟨hid, hdraft⟩ := not_or.1 hneither
  cases hd : s.draft path with
  | ok d => exact hdraft ⟨d, hd⟩
  | error e =>
    cases levels with
    | zero =>
      rw [outcome_buildModule_zero hid] at h
      cases h
    | succ levels =>
      rw [outcome_buildModule_error hid hd] at h
      cases h

end Sources

end ModuleBundler
