import Mathlib.Data.List.Perm.Basic
import ModuleBundler.Proofs.Graph.Reach

/-! Two lists of modules that have one content wherever they share a name, and lack no dependency.
What can be reached from a name that both have is the same in both. -/
namespace ModuleBundler.Module

def content (m : Module) : String × Path × String × List String :=
  (m.id, m.path, m.source, m.dependencies)

def Complete (modules : List Module) : Prop :=
  ∀ a b, Loads modules a b → b ∈ modules.map Module.id

def Agree (modules modules' : List Module) : Prop :=
  ∀ m ∈ modules, ∀ n ∈ modules', m.id = n.id → m.content = n.content

variable {modules modules' : List Module} {a b : String}

theorem Agree.symm (h : Agree modules modules') : Agree modules' modules :=
  fun n hn m hm hid => (h m hm n hn hid.symm).symm

theorem Agree.loads (h : Agree modules modules') (ha : a ∈ modules'.map Module.id)
    (hload : Loads modules a b) : Loads modules' a b := by
  obtain ⟨m, hm, rfl, hb⟩ := hload
  obtain ⟨n, hn, hid⟩ := List.mem_map.1 ha
  have hdependencies : m.dependencies = n.dependencies :=
    congrArg (fun content => content.2.2.2) (h m hm n hn hid.symm)
  exact ⟨n, hn, hid, hdependencies ▸ hb⟩

theorem Agree.reaches (h : Agree modules modules') (hcomplete : Complete modules')
    (ha : a ∈ modules'.map Module.id) (hreach : Reaches modules a b) :
    Reaches modules' a b ∧ b ∈ modules'.map Module.id := by
  induction hreach with
  | refl => exact ⟨.refl, ha⟩
  | tail _ hload ih =>
    have hload' := h.loads ih.2 hload
    exact ⟨ih.1.tail hload', hcomplete _ _ hload'⟩

open Classical in
theorem Agree.mem_reached (h : Agree modules modules') (hcomplete : Complete modules')
    (ha : a ∈ modules'.map Module.id) {x : String × Path × String × List String}
    (hx : x ∈ (modules.filter fun m => Reaches modules a m.id).map content) :
    x ∈ (modules'.filter fun m => Reaches modules' a m.id).map content := by
  obtain ⟨m, hm, rfl⟩ := List.mem_map.1 hx
  obtain ⟨hmem, hreach⟩ := List.mem_filter.1 hm
  obtain ⟨hreach', hid⟩ := h.reaches hcomplete ha (of_decide_eq_true hreach)
  obtain ⟨n, hn, hid⟩ := List.mem_map.1 hid
  refine List.mem_map.2 ⟨n, List.mem_filter.2 ⟨hn, ?_⟩, (h m hmem n hn hid.symm).symm⟩
  exact decide_eq_true (hid ▸ hreach')

open Classical in
theorem Agree.perm_reached (h : Agree modules modules') (hnd : (modules.map Module.id).Nodup)
    (hnd' : (modules'.map Module.id).Nodup) (hcomplete : Complete modules)
    (hcomplete' : Complete modules') (ha : a ∈ modules.map Module.id)
    (ha' : a ∈ modules'.map Module.id) :
    ((modules.filter fun m => Reaches modules a m.id).map content).Perm
      ((modules'.filter fun m => Reaches modules' a m.id).map content) := by
  have hnodup : ∀ (modules : List Module) (p : Module → Bool), (modules.map Module.id).Nodup →
      ((modules.filter p).map content).Nodup := by
    intro modules p hnd
    refine List.Nodup.of_map Prod.fst ?_
    rw [List.map_map]
    exact hnd.sublist (List.filter_sublist.map Module.id)
  refine (List.perm_ext_iff_of_nodup (hnodup _ _ hnd) (hnodup _ _ hnd')).2 fun x => ?_
  exact ⟨h.mem_reached hcomplete' ha', h.symm.mem_reached hcomplete ha⟩

end ModuleBundler.Module
