import Mathlib.Data.List.Nodup
import Mathlib.Logic.Relation
import ModuleBundler.Graph

/-! Lists of modules as graphs: which names a name leads to, which names an entry owns, and how a
list grows while modules are found for an entry. Growth keeps what is there, in its place. -/
namespace ModuleBundler.Module

/-- A module of the list with one name depends on another name. -/
def Loads (modules : List Module) (a b : String) : Prop :=
  ∃ m ∈ modules, m.id = a ∧ b ∈ m.dependencies

/-- Dependencies lead from one name to another, in any number of steps. -/
def Reaches (modules : List Module) : String → String → Prop :=
  Relation.ReflTransGen (Loads modules)

def Owned (modules : List Module) (entry id : String) : Prop :=
  ∃ m ∈ modules, m.id = id ∧ entry ∈ m.owners

theorem Owned.mem_names {modules : List Module} {entry id : String} (h : Owned modules entry id) :
    id ∈ modules.map Module.id := by
  obtain ⟨m, hm, rfl, -⟩ := h
  exact List.mem_map_of_mem hm

theorem Loads.mem_names {modules : List Module} {a b : String} (h : Loads modules a b) :
    a ∈ modules.map Module.id := by
  obtain ⟨m, hm, rfl, -⟩ := h
  exact List.mem_map_of_mem hm

theorem Owned.of_insert {g : Graph} {m : Module} {entry a : String} (hid : m.id ∉ g.names)
    (ha : a ≠ m.id) (h : Owned (g.insert m).modules entry a) : Owned g.modules entry a := by
  obtain ⟨n, hn, rfl, he⟩ := h
  exact ⟨n, Graph.mem_of_mem_insert hid hn ha, rfl, he⟩

theorem Loads.of_insert {g : Graph} {m : Module} {a b : String} (hid : m.id ∉ g.names)
    (ha : a ≠ m.id) (h : Loads (g.insert m).modules a b) : Loads g.modules a b := by
  obtain ⟨n, hn, rfl, hb⟩ := h
  exact ⟨n, Graph.mem_of_mem_insert hid hn ha, rfl, hb⟩

theorem eq_of_id_eq {modules : List Module} (hnd : (modules.map Module.id).Nodup) {m n : Module}
    (hm : m ∈ modules) (hn : n ∈ modules) (h : m.id = n.id) : m = n :=
  List.inj_on_of_nodup_map hnd hm hn h

theorem find?_of_mem {modules : List Module} (hnd : (modules.map Module.id).Nodup) {m : Module}
    (hm : m ∈ modules) : modules.find? (fun n => n.id = m.id) = some m := by
  cases hfind : modules.find? (fun n => n.id = m.id) with
  | none => simpa using List.find?_eq_none.1 hfind m hm
  | some n =>
    have hid : n.id = m.id := by simpa using List.find?_some hfind
    rw [eq_of_id_eq hnd (List.mem_of_find?_eq_some hfind) hm hid]

theorem owned_iff_mem {modules : List Module} (hnd : (modules.map Module.id).Nodup) {m : Module}
    (hm : m ∈ modules) (entry : String) : Owned modules entry m.id ↔ entry ∈ m.owners := by
  constructor
  · rintro ⟨n, hn, hid, he⟩
    rwa [← eq_of_id_eq hnd hn hm hid]
  · exact fun he => ⟨m, hm, rfl, he⟩

theorem Reaches.mem_of_closed {modules : List Module} {S : String → Prop} {a b : String}
    (h : Reaches modules a b) (ha : S a) (hS : ∀ c d, S c → Loads modules c d → S d) : S b := by
  induction h with
  | refl => exact ha
  | tail _ hload ih => exact hS _ _ ih hload

section Growth

/-- A module as it was, or with an entry as its last owner. -/
def GrowsTo (entry : String) (m m' : Module) : Prop := m' = m ∨ m' = m.ownedAlsoBy entry

@[simp] theorem ownedAlsoBy_id (entry : String) (m : Module) :
    (m.ownedAlsoBy entry).id = m.id := rfl

@[simp] theorem ownedAlsoBy_path (entry : String) (m : Module) :
    (m.ownedAlsoBy entry).path = m.path := rfl

@[simp] theorem ownedAlsoBy_source (entry : String) (m : Module) :
    (m.ownedAlsoBy entry).source = m.source := rfl

@[simp] theorem ownedAlsoBy_dependencies (entry : String) (m : Module) :
    (m.ownedAlsoBy entry).dependencies = m.dependencies := rfl

@[simp] theorem ownedAlsoBy_owners (entry : String) (m : Module) :
    (m.ownedAlsoBy entry).owners = Keyed.addNew entry m.owners := rfl

theorem ownedAlsoBy_of_mem {entry : String} {m : Module} (h : entry ∈ m.owners) :
    m.ownedAlsoBy entry = m := by
  unfold ownedAlsoBy
  rw [Keyed.addNew_of_mem h]

variable {entry : String} {m m' m'' : Module}

theorem GrowsTo.id_eq (h : GrowsTo entry m m') : m'.id = m.id := by
  rcases h with rfl | rfl <;> rfl

theorem GrowsTo.path_eq (h : GrowsTo entry m m') : m'.path = m.path := by
  rcases h with rfl | rfl <;> rfl

theorem GrowsTo.source_eq (h : GrowsTo entry m m') : m'.source = m.source := by
  rcases h with rfl | rfl <;> rfl

theorem GrowsTo.dependencies_eq (h : GrowsTo entry m m') : m'.dependencies = m.dependencies := by
  rcases h with rfl | rfl <;> rfl

theorem GrowsTo.owners_eq (h : GrowsTo entry m m') :
    m'.owners = m.owners ∨ entry ∉ m.owners ∧ m'.owners = m.owners ++ [entry] := by
  rcases h with rfl | rfl
  · exact .inl rfl
  · by_cases he : entry ∈ m.owners
    · exact .inl (by rw [ownedAlsoBy_of_mem he])
    · exact .inr ⟨he, Keyed.addNew_of_not_mem he⟩

theorem GrowsTo.mem_owners (h : GrowsTo entry m m') {other : String} (ho : other ∈ m.owners) :
    other ∈ m'.owners := by
  rcases h with rfl | rfl
  · exact ho
  · exact Keyed.mem_addNew.2 (.inl ho)

theorem GrowsTo.mem_owners_of_ne (h : GrowsTo entry m m') {other : String} (hne : other ≠ entry)
    (ho : other ∈ m'.owners) : other ∈ m.owners := by
  rcases h with rfl | rfl
  · exact ho
  · exact (Keyed.mem_addNew.1 ho).resolve_right hne

theorem GrowsTo.trans (h : GrowsTo entry m m') (h' : GrowsTo entry m' m'') :
    GrowsTo entry m m'' := by
  rcases h' with rfl | rfl
  · exact h
  · rcases h with rfl | rfl
    · exact .inr rfl
    · rw [ownedAlsoBy_of_mem (Keyed.mem_addNew.2 (.inr rfl))]
      exact .inr rfl

/-- A list of modules after more of them were found for an entry: those that were there grow in
their places, and those that follow are owned by the entry alone. -/
def Grows (entry : String) (before after : List Module) : Prop :=
  ∃ (f : Module → Module) (new : List Module), after = before.map f ++ new ∧
    (∀ m ∈ before, GrowsTo entry m (f m)) ∧ ∀ m ∈ new, m.owners = [entry]

variable {before middle after : List Module}

theorem Grows.refl (entry : String) (modules : List Module) : Grows entry modules modules :=
  ⟨fun m => m, [], by simp, fun _ _ => .inl rfl, by simp⟩

theorem Grows.append_singleton (modules : List Module) (h : m.owners = [entry]) :
    Grows entry modules (modules ++ [m]) :=
  ⟨fun m => m, [m], by simp, fun _ _ => .inl rfl, by simpa using h⟩

theorem Grows.insert {g : Graph} (hid : m.id ∉ g.names) (h : m.owners = [entry]) :
    Grows entry g.modules (g.insert m).modules := by
  rw [Graph.modules_insert hid]
  exact .append_singleton g.modules h

theorem Grows.trans (h : Grows entry before middle) (h' : Grows entry middle after) :
    Grows entry before after := by
  obtain ⟨f, new, rfl, hf, hnew⟩ := h
  obtain ⟨f', new', rfl, hf', hnew'⟩ := h'
  refine ⟨f' ∘ f, new.map f' ++ new', by simp, fun m hm => ?_, fun m hm => ?_⟩
  · exact (hf m hm).trans (hf' (f m) (List.mem_append_left _ (List.mem_map_of_mem hm)))
  · rcases List.mem_append.1 hm with hm | hm
    · obtain ⟨n, hn, rfl⟩ := List.mem_map.1 hm
      rcases (hf' n (List.mem_append_right _ hn)).owners_eq with h | ⟨h, -⟩
      · rw [h, hnew n hn]
      · exact absurd (by simp [hnew n hn]) h
    · exact hnew' m hm

theorem Grows.exists_mem (h : Grows entry before after) (hm : m ∈ before) :
    ∃ m' ∈ after, GrowsTo entry m m' := by
  obtain ⟨f, new, rfl, hf, -⟩ := h
  exact ⟨f m, List.mem_append_left _ (List.mem_map_of_mem hm), hf m hm⟩

theorem Grows.mem_cases (h : Grows entry before after) (hm : m' ∈ after) :
    (∃ m ∈ before, GrowsTo entry m m') ∨ m'.owners = [entry] := by
  obtain ⟨f, new, rfl, hf, hnew⟩ := h
  rcases List.mem_append.1 hm with hm | hm
  · obtain ⟨m, hmem, rfl⟩ := List.mem_map.1 hm
    exact .inl ⟨m, hmem, hf m hmem⟩
  · exact .inr (hnew m' hm)

theorem Grows.names_prefix (h : Grows entry before after) :
    before.map Module.id <+: after.map Module.id := by
  obtain ⟨f, new, rfl, hf, -⟩ := h
  refine ⟨new.map Module.id, ?_⟩
  rw [List.map_append, List.map_map]
  congr 1
  exact List.map_congr_left fun m hm => (hf m hm).id_eq.symm

theorem Grows.names_subset (h : Grows entry before after) :
    before.map Module.id ⊆ after.map Module.id :=
  h.names_prefix.subset

theorem Grows.paths_subset (h : Grows entry before after) :
    before.map Module.path ⊆ after.map Module.path := by
  intro path hpath
  obtain ⟨m, hm, rfl⟩ := List.mem_map.1 hpath
  obtain ⟨m', hm', hg⟩ := h.exists_mem hm
  exact hg.path_eq ▸ List.mem_map_of_mem hm'

theorem Grows.loads (h : Grows entry before after) {a b : String} (hl : Loads before a b) :
    Loads after a b := by
  obtain ⟨m, hm, rfl, hb⟩ := hl
  obtain ⟨m', hm', hg⟩ := h.exists_mem hm
  exact ⟨m', hm', hg.id_eq, hg.dependencies_eq ▸ hb⟩

theorem Grows.reaches (h : Grows entry before after) {a b : String} (hr : Reaches before a b) :
    Reaches after a b :=
  Relation.ReflTransGen.mono (fun _ _ => h.loads) _ _ hr

theorem Grows.owned (h : Grows entry before after) {other a : String} (ho : Owned before other a) :
    Owned after other a := by
  obtain ⟨m, hm, rfl, hb⟩ := ho
  obtain ⟨m', hm', hg⟩ := h.exists_mem hm
  exact ⟨m', hm', hg.id_eq, hg.mem_owners hb⟩

theorem Grows.owned_of_ne (h : Grows entry before after) {other a : String} (hne : other ≠ entry)
    (ho : Owned after other a) : Owned before other a := by
  obtain ⟨m', hm', rfl, hb⟩ := ho
  rcases h.mem_cases hm' with ⟨m, hm, hg⟩ | hnew
  · exact ⟨m, hm, hg.id_eq.symm, hg.mem_owners_of_ne hne hb⟩
  · rw [hnew] at hb
    exact absurd (List.mem_singleton.1 hb) hne

theorem Grows.exists_of_mem_names (h : Grows entry before after)
    (hnd : (after.map Module.id).Nodup) (hm' : m' ∈ after) (hid : m'.id ∈ before.map Module.id) :
    ∃ m ∈ before, GrowsTo entry m m' := by
  obtain ⟨m, hm, hid⟩ := List.mem_map.1 hid
  obtain ⟨n, hn, hg⟩ := h.exists_mem hm
  obtain rfl := eq_of_id_eq hnd hm' hn (hid.symm.trans hg.id_eq.symm)
  exact ⟨m, hm, hg⟩

theorem Grows.loads_of_mem (h : Grows entry before after)
    (hnd : (after.map Module.id).Nodup) {a b : String} (ha : a ∈ before.map Module.id)
    (hl : Loads after a b) : Loads before a b := by
  obtain ⟨m', hm', rfl, hb⟩ := hl
  obtain ⟨m, hm, hg⟩ := h.exists_of_mem_names hnd hm' ha
  exact ⟨m, hm, hg.id_eq.symm, hg.dependencies_eq ▸ hb⟩

end Growth

end ModuleBundler.Module
