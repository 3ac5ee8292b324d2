import ModuleBundler.Proofs.Build.Ownership

/-! What a call of a build does to the graph, also when it fails half-way. The modules that were
there stay in their places, and a module that the entry comes to own brings along what it depends
on. When the call succeeds, every module that it has added is finished. -/
namespace ModuleBundler

open ModuleBundler.Module (Owned Loads Grows)

namespace Graph

/-- How steps of a build for an entry change a graph, wherever they are cut short. -/
structure Advances (entry : String) (g g' : Graph) : Prop where
  grows : Grows entry g.modules g'.modules
  /-- A module that the entry has come to own brings along those of its dependencies that were
  there. -/
  closed : ∀ a b, a ∈ g.names → ¬ Owned g.modules entry a → Owned g'.modules entry a →
    Loads g.modules a b → b ∈ g.names → Owned g'.modules entry b

theorem Advances.refl (entry : String) (g : Graph) : Advances entry g g where
  grows := .refl entry g.modules
  closed _ _ _ hn ho := absurd ho hn

theorem Advances.trans {entry : String} {g g' g'' : Graph} (h : Advances entry g g')
    (h' : Advances entry g' g'') : Advances entry g g'' where
  grows := h.grows.trans h'.grows
  closed a b ha hn ho hl hb := by
    by_cases hmid : Owned g'.modules entry a
    · exact h'.grows.owned (h.closed a b ha hn hmid hl hb)
    · have ha' : a ∈ g'.names := h.grows.names_subset ha
      have hb' : b ∈ g'.names := h.grows.names_subset hb
      exact h'.closed a b ha' hmid ho (h.grows.loads hl) hb'

theorem Advances.claim (g : Graph) (id entry : String) : Advances entry g (g.claim id entry) where
  grows := (claimed_claim g id entry).grows
  closed a b _ := (claimed_claim g id entry).closed a b

theorem Advances.insert {g : Graph} {m : Module} {entry : String} (h : m.id ∉ g.names)
    (howners : m.owners = [entry]) : Advances entry g (g.insert m) where
  grows := .insert h howners
  closed _ _ ha hn ho := absurd (ho.of_insert h fun heq => h (heq ▸ ha)) hn

def Finished (entry : String) (g g' : Graph) : Prop :=
  ∀ m ∈ g'.modules, m.id ∉ g.names → ∀ d ∈ m.dependencies, Owned g'.modules entry d

theorem Finished.claim (g : Graph) (id entry : String) : Finished entry g (g.claim id entry) := by
  intro m hm hnew
  have hid : m.id ∈ (g.claim id entry).names := List.mem_map_of_mem hm
  rw [(claimed_claim g id entry).names_eq] at hid
  exact absurd hid hnew

theorem Finished.insert {g g' : Graph} {m : Module} {entry : String} (hid : m.id ∉ g.names)
    (hs : Serves entry m.dependencies (g.insert m) g') (h : Finished entry (g.insert m) g') :
    Finished entry g g' := by
  intro n hn hnew
  by_cases hadded : n.id ∈ (g.insert m).names
  · obtain ⟨k, hk, hgrows⟩ := hs.grows.exists_of_mem_names g'.names_nodup hn hadded
    have hkm : k = m := by
      rcases (mem_insert hid).1 hk with hk | hk
      · exact absurd (hgrows.id_eq ▸ List.mem_map_of_mem hk) hnew
      · exact hk
    intro d hd
    rw [hgrows.dependencies_eq, hkm] at hd
    exact hs.owned d hd
  · exact h n hn hadded

theorem Finished.trans {g g' g'' : Graph} {entry : String} (h : Finished entry g g')
    (hgrows : Grows entry g'.modules g''.modules) (h' : Finished entry g' g'') :
    Finished entry g g'' := by
  intro n hn hnew
  by_cases hmid : n.id ∈ g'.names
  · obtain ⟨k, hk, hkn⟩ := hgrows.exists_of_mem_names g''.names_nodup hn hmid
    have hknew : k.id ∉ g.names := fun hmem => hnew (hkn.id_eq ▸ hmem)
    intro d hd
    rw [hkn.dependencies_eq] at hd
    exact hgrows.owned (h k hk hknew d hd)
  · exact h' n hn hmid

end Graph

namespace Sources

open Build ModuleBundler.Graph

variable {s : Sources} {entry : String} {levels : Nat} {path : Path} {p q : Progress}

theorem advances_buildModule (s : Sources) (entry : String) (levels : Nat) (path : Path)
    (p : Progress) :
    Advances entry p.graph (outcome (s.buildModule entry levels path) p).2.graph := by
  refine buildModule_induction (fun _ p _ q => Advances entry p.graph q.graph)
    (fun _ p _ q => Advances entry p.graph q.graph) ?known ?exhausted ?failed ?found ?nil ?stop
    ?next levels path p
  case known => exact fun path p _ => .claim p.graph (s.name path) entry
  case exhausted => exact fun _ p _ => .refl entry p.graph
  case failed => exact fun path p _ _ _ => graph_examined s path p ▸ .refl entry p.graph
  case found =>
    intro path p d _ q hid _ hall
    have hinsert : Advances entry p.graph (p.graph.insert (d.module s entry path)) :=
      .insert hid rfl
    exact hinsert.trans hall
  case nil => exact fun p => .refl entry p.graph
  case stop => exact fun _ _ _ _ _ hpath => hpath
  case next => exact fun _ _ _ _ _ _ hpath hmore => hpath.trans hmore

theorem finished_buildModule (h : outcome (s.buildModule entry levels path) p = (.ok ⟨⟩, q)) :
    Finished entry p.graph q.graph := by
  refine (buildModule_induction_ok
    (fun path g g' => Serves entry [s.name path] g g' ∧ Finished entry g g')
    (fun paths g g' => Serves entry (paths.map s.name) g g' ∧ Finished entry g g')
    ?known ?found ?nil ?next h).2
  case known => exact fun path g hid => ⟨.claim hid, .claim g (s.name path) entry⟩
  case found =>
    intro path g d g' hid _ ⟨hserves, hfinished⟩
    rw [d.map_name_paths] at hserves
    have hadded : (d.module s entry path).id ∉ g.names := hid
    exact ⟨.found hadded rfl hserves, .insert hadded hserves hfinished⟩
  case nil =>
    intro g
    refine ⟨.nil entry g, fun m hm hnew => ?_⟩
    exact absurd (List.mem_map_of_mem hm) hnew
  case next =>
    intro path more g g' g'' ⟨hpath, hdone⟩ ⟨hmore, hdone'⟩
    exact ⟨hpath.next hmore, hdone.trans hmore.grows hdone'⟩

def Named (root : Path) (g : Graph) : Prop :=
  ∀ m ∈ g.modules, m.id = Path.moduleId root m.path

theorem Named.claim {root : Path} {g : Graph} (h : Named root g) (id entry : String) :
    Named root (g.claim id entry) := by
  intro m' hm'
  obtain ⟨m, hm, hgrows⟩ := Graph.exists_of_mem_claim hm'
  rw [hgrows.id_eq, hgrows.path_eq]
  exact h m hm

theorem named_buildModule (s : Sources) (entry : String) (levels : Nat) (path : Path)
    (p : Progress) (h : Named s.root p.graph) :
    Named s.root (outcome (s.buildModule entry levels path) p).2.graph := by
  refine buildModule_induction (fun _ p _ q => Named s.root p.graph → Named s.root q.graph)
    (fun _ p _ q => Named s.root p.graph → Named s.root q.graph) ?known ?exhausted ?failed ?found
    ?nil ?stop ?next levels path p h
  case known => exact fun path p _ hp => hp.claim (s.name path) entry
  case exhausted => exact fun _ _ _ hp => hp
  case failed => exact fun path p _ _ _ hp => (graph_examined s path p).symm ▸ hp
  case found =>
    intro path p d _ q hid _ hall hp
    refine hall fun m hm => ?_
    rcases (mem_insert (m := d.module s entry path) hid).1 hm with hm | rfl
    · exact hp m hm
    · rfl
  case nil => exact fun _ hp => hp
  case stop => exact fun _ _ _ _ _ hpath => hpath
  case next => exact fun _ _ _ _ _ _ hpath hmore hp => hmore (hpath hp)

end Sources

end ModuleBundler
