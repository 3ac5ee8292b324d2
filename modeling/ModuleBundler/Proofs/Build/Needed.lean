import ModuleBundler.Proofs.Build.Ownership

/-! Which files a build needs, and what the modules of its graph have to do with them: each is made
from a needed file, and is there under the name of that file. -/
namespace ModuleBundler

open Build Script
open ModuleBundler.Module (GrowsTo)

/-- A file is needed that is one of some roots, or that a call in a needed file means. -/
inductive Sources.Needed (s : Sources) (roots : List Path) : Path → Prop where
  | root {path : Path} (h : path ∈ roots) : Needed s roots path
  | call {path target : Path} {r : Reading} {call : DependencyCall} (h : Needed s roots path)
      (hr : s.reading path = .ok r) (hcall : call ∈ r.scan.calls)
      (htarget : s.target (s.directory path) call.specifier = .ok target) : Needed s roots target

def Sources.Buildable (s : Sources) (roots : List Path) : Prop :=
  ∀ path, s.Needed roots path → ∃ d, s.draft path = .ok d

namespace Draft

variable {s : Sources} {path : Path} {d : Draft}

/-- The edits of a module: each call is redirected to the file that it means. -/
def rewrite (s : Sources) (d : Draft) : EditPlan :=
  d.steps.foldl (fun plan step => plan.redirect step.1 (s.name step.2))
    (Sources.startPlan d.reading.scan)

theorem mem_targets (h : s.draft path = .ok d) {t : Path} :
    t ∈ d.targets ↔ ∃ call ∈ d.reading.scan.calls,
      s.target (s.directory path) call.specifier = .ok t := by
  have hall := Sources.targets_eq_ok.1 (Sources.draft_eq_ok.1 h).2
  generalize d.reading.scan.calls = calls, d.targets = targets at hall ⊢
  induction hall with
  | nil => simp
  | @cons call target calls targets hcall _ ih =>
    refine List.mem_cons.trans ⟨?_, ?_⟩
    · rintro (rfl | ht)
      · exact ⟨call, List.mem_cons_self, hcall⟩
      · obtain ⟨call', hmem, htarget⟩ := ih.1 ht
        exact ⟨call', List.mem_cons_of_mem _ hmem, htarget⟩
    · rintro ⟨call', hmem, htarget⟩
      rcases List.mem_cons.1 hmem with rfl | hmem
      · exact .inl (Except.ok.inj (htarget.symm.trans hcall))
      · exact .inr (ih.2 ⟨call', hmem, htarget⟩)

/-- A module is what the file at its path comes to. -/
structure Gives (s : Sources) (d : Draft) (m : Module) : Prop where
  draft_eq : s.draft m.path = .ok d
  id_eq : m.id = s.name m.path
  source_eq : m.source = (d.rewrite s).apply d.reading.text
  dependencies_eq : m.dependencies = (d.targets.map s.name).eraseDups

theorem Gives.loads {m : Module} (h : d.Gives s m) {modules : List Module} (hm : m ∈ modules)
    {t : Path} (ht : t ∈ d.targets) : Module.Loads modules m.id (s.name t) := by
  refine ⟨m, hm, rfl, ?_⟩
  rw [h.dependencies_eq, List.mem_eraseDups]
  exact List.mem_map_of_mem ht

theorem gives_module (h : s.draft path = .ok d) (entry : String) :
    d.Gives s (d.module s entry path) where
  draft_eq := h
  id_eq := rfl
  source_eq := by
    show (d.links s).plan.apply _ = _
    rw [links, plan_foldl_follow, rewrite]
  dependencies_eq := ids_links h

theorem Gives.grows {entry : String} {m m' : Module} (h : d.Gives s m) (hg : GrowsTo entry m m') :
    d.Gives s m' where
  draft_eq := hg.path_eq ▸ h.draft_eq
  id_eq := by rw [hg.id_eq, hg.path_eq, h.id_eq]
  source_eq := hg.source_eq.trans h.source_eq
  dependencies_eq := hg.dependencies_eq.trans h.dependencies_eq

end Draft

namespace Sources

variable {s : Sources} {roots roots' : List Path} {path : Path} {d : Draft}

theorem Needed.mono (hsub : roots ⊆ roots') (h : s.Needed roots path) : s.Needed roots' path := by
  induction h with
  | root h => exact .root (hsub h)
  | call _ hr hcall htarget ih => exact .call ih hr hcall htarget

theorem Needed.target (h : s.Needed roots path) (hd : s.draft path = .ok d) {t : Path}
    (ht : t ∈ d.targets) : s.Needed roots t := by
  obtain ⟨call, hcall, htarget⟩ := (Draft.mem_targets hd).1 ht
  exact .call h (draft_eq_ok.1 hd).1 hcall htarget

/-- A path that led to a module: one of some roots, or one that a call in another module means. -/
inductive Traced (s : Sources) (roots : List Path) (modules : List Module) : Path → Prop where
  | root {path : Path} (h : path ∈ roots) : Traced s roots modules path
  | call {m : Module} {d : Draft} {target : Path} (hm : m ∈ modules)
      (h : Traced s roots modules m.path) (hd : s.draft m.path = .ok d)
      (htarget : target ∈ d.targets) : Traced s roots modules target

variable {modules modules' : List Module}

theorem Traced.needed (h : s.Traced roots modules path) : s.Needed roots path := by
  induction h with
  | root h => exact .root h
  | call _ _ hd htarget ih => exact ih.target hd htarget

theorem Traced.mono (hroots : roots ⊆ roots')
    (hpaths : modules.map Module.path ⊆ modules'.map Module.path)
    (h : s.Traced roots modules path) : s.Traced roots' modules' path := by
  induction h with
  | root h => exact .root (hroots h)
  | @call m d target hm _ hd htarget ih =>
    obtain ⟨m', hm', hpath⟩ := List.mem_map.1 (hpaths (List.mem_map_of_mem hm))
    exact .call hm' (hpath ▸ ih) (hpath ▸ hd) htarget

/-- The modules are made from files that were found from some roots. -/
structure Made (s : Sources) (roots : List Path) (modules : List Module) : Prop where
  gives : ∀ m ∈ modules, ∃ d : Draft, d.Gives s m
  traced : ∀ m ∈ modules, s.Traced roots modules m.path

/-- The modules are made from files that were found from some roots, and the roots have their names
there. -/
structure Covers (s : Sources) (roots : List Path) (modules : List Module) : Prop
    extends Made s roots modules where
  roots : ∀ r ∈ roots, s.name r ∈ modules.map Module.id

theorem Covers.nil (s : Sources) : s.Covers [] [] where
  gives := by simp
  traced := by simp
  roots := by simp

theorem Made.claim {g : Graph} (h : s.Made roots g.modules) (id entry : String) :
    s.Made roots (g.claim id entry).modules := by
  have hclaimed := Graph.claimed_claim g id entry
  refine ⟨fun m' hm' => ?_, fun m' hm' => ?_⟩
  · obtain ⟨m, hm, hgrows⟩ := Graph.exists_of_mem_claim hm'
    obtain ⟨d, hd⟩ := h.gives m hm
    exact ⟨d, hd.grows hgrows⟩
  · obtain ⟨m, hm, hgrows⟩ := Graph.exists_of_mem_claim hm'
    exact hgrows.path_eq ▸ (h.traced m hm).mono (List.Subset.refl roots) hclaimed.grows.paths_subset

theorem Made.insert {g : Graph} (h : s.Made roots g.modules) (entry : String)
    (hid : s.name path ∉ g.names) (hd : s.draft path = .ok d)
    (hpath : s.Traced roots g.modules path) :
    s.Made roots (g.insert (d.module s entry path)).modules := by
  have hgrows : Module.Grows entry g.modules (g.insert (d.module s entry path)).modules :=
    .insert hid rfl
  refine ⟨fun m hm => ?_, fun m hm => ?_⟩
  · rcases (Graph.mem_insert hid).1 hm with hm | rfl
    · exact h.gives m hm
    · exact ⟨d, Draft.gives_module hd entry⟩
  · rcases (Graph.mem_insert hid).1 hm with hm | rfl
    · exact (h.traced m hm).mono (List.Subset.refl roots) hgrows.paths_subset
    · exact hpath.mono (List.Subset.refl roots) hgrows.paths_subset

theorem Made.traced_paths {g : Graph} (h : s.Made roots g.modules) (entry : String)
    (hid : s.name path ∉ g.names) (hd : s.draft path = .ok d)
    (hpath : s.Traced roots g.modules path) {t : Path} (ht : t ∈ (d.links s).paths) :
    s.Traced roots (g.insert (d.module s entry path)).modules t := by
  have hnew : d.module s entry path ∈ (g.insert (d.module s entry path)).modules :=
    Graph.mem_insert_self hid
  have hinsert := h.insert entry hid hd hpath
  exact .call hnew (hinsert.traced _ hnew) hd (Draft.mem_targets_of_mem_paths hd ht)

theorem made_buildModule {entry : String} {levels : Nat} {p q : Progress}
    (h : outcome (s.buildModule entry levels path) p = (.ok ⟨⟩, q))
    (hpath : s.Traced roots p.graph.modules path) (hmade : s.Made roots p.graph.modules) :
    s.Made roots q.graph.modules := by
  refine (buildModule_induction_ok
    (fun path g g' => g.modules.map Module.path ⊆ g'.modules.map Module.path ∧
      (s.Traced roots g.modules path → s.Made roots g.modules → s.Made roots g'.modules))
    (fun paths g g' => g.modules.map Module.path ⊆ g'.modules.map Module.path ∧
      ((∀ path ∈ paths, s.Traced roots g.modules path) → s.Made roots g.modules →
        s.Made roots g'.modules)) ?_ ?_ ?_ ?_ h).2 hpath hmade
  · intro path g hid
    exact ⟨(Graph.claimed_claim g (s.name path) entry).grows.paths_subset,
      fun _ hg => hg.claim (s.name path) entry⟩
  · intro path g d g' hid hd ⟨hsub, hall⟩
    have hgrows : Module.Grows entry g.modules (g.insert (d.module s entry path)).modules :=
      .insert hid rfl
    refine ⟨fun t ht => hsub (hgrows.paths_subset ht), fun hpath hg => ?_⟩
    exact hall (fun t ht => hg.traced_paths entry hid hd hpath ht) (hg.insert entry hid hd hpath)
  · exact fun g => ⟨List.Subset.refl _, fun _ hg => hg⟩
  · intro path more g g' g'' ⟨hsub, hvisit⟩ ⟨hsub', hall⟩
    refine ⟨fun t ht => hsub' (hsub ht), fun hpaths hg => ?_⟩
    obtain ⟨hpath, hmore⟩ := List.forall_mem_cons.1 hpaths
    exact hall (fun t ht => (hmore t ht).mono (List.Subset.refl roots) hsub) (hvisit hpath hg)

theorem covers_buildModule {entry : String} {levels : Nat} {p q : Progress}
    (h : outcome (s.buildModule entry levels path) p = (.ok ⟨⟩, q))
    (hcovers : s.Covers roots p.graph.modules) : s.Covers (roots ++ [path]) q.graph.modules := by
  have hserves := serves_buildModule h
  have hmade : s.Made (roots ++ [path]) p.graph.modules := by
    refine ⟨hcovers.gives, fun m hm => ?_⟩
    exact (hcovers.traced m hm).mono (List.subset_append_left ..) (List.Subset.refl _)
  refine ⟨made_buildModule h (.root List.mem_concat_self) hmade, fun r hr => ?_⟩
  rcases List.mem_append.1 hr with hr | hr
  · exact hserves.grows.names_subset (hcovers.roots r hr)
  · rw [List.mem_singleton.1 hr]
    exact (hserves.owned (s.name path) List.mem_cons_self).mem_names

end Sources

end ModuleBundler
