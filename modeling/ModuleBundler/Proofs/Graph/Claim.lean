import Mathlib.Data.List.Flatten
import ModuleBundler.Proofs.Graph.Reach

/-! Claiming a module for an entry gives the entry exactly what can be reached from that module
without passing a module that the entry owns already. -/
namespace ModuleBundler

open ModuleBundler.Module (Owned Loads Reaches GrowsTo Grows)

namespace Module

def Free (modules : List Module) (entry id : String) : Prop :=
  id ∈ modules.map Module.id ∧ ¬ Owned modules entry id

/-- Dependencies lead from one name to another past modules that the entry does not own. -/
def FreelyReaches (modules : List Module) (entry a b : String) : Prop :=
  Free modules entry a ∧
    Relation.ReflTransGen (fun c d => Loads modules c d ∧ Free modules entry d) a b

theorem FreelyReaches.reaches {modules : List Module} {entry a b : String}
    (h : FreelyReaches modules entry a b) : Reaches modules a b :=
  Relation.ReflTransGen.mono (fun _ _ h => h.1) _ _ h.2

theorem FreelyReaches.head {modules : List Module} {entry a b c : String}
    (ha : Free modules entry a) (hl : Loads modules a b) (h : FreelyReaches modules entry b c) :
    FreelyReaches modules entry a c :=
  ⟨ha, .head ⟨hl, h.1⟩ h.2⟩

def freeEdges (entry : String) (modules : List Module) : Nat :=
  ((modules.filter fun m => !m.isOwnedBy entry).flatMap Module.dependencies).length

end Module

namespace Graph

open ModuleBundler.Module (Free FreelyReaches freeEdges)

theorem freeEdges_le_edges (g : Graph) (entry : String) :
    freeEdges entry g.modules ≤ g.edges :=
  (List.filter_sublist.flatMap Module.dependencies).length_le

theorem own_of_ne {id entry : String} {m : Module} (h : m.id ≠ id) : own id entry m = m :=
  if_neg h

theorem freeEdges_map_own {modules : List Module} {m : Module} {entry : String}
    (hnd : (modules.map Module.id).Nodup) (hm : m ∈ modules) (hfree : m.isOwnedBy entry = false) :
    freeEdges entry (modules.map (own m.id entry)) + m.dependencies.length =
      freeEdges entry modules := by
  induction modules with
  | nil => exact absurd hm List.not_mem_nil
  | cons n rest ih =>
    obtain ⟨hn, hrest⟩ := List.nodup_cons.1 hnd
    rcases List.mem_cons.1 hm with rfl | hm
    · have hsame : rest.map (own m.id entry) = rest := by
        refine (List.map_congr_left fun k hk => own_of_ne fun hid => hn ?_).trans (List.map_id _)
        exact hid ▸ List.mem_map_of_mem hk
      have howned : (own m.id entry m).isOwnedBy entry = true := by
        simp [own, Module.isOwnedBy]
      simp [freeEdges, hsame, howned, hfree, Nat.add_comm]
    · have hne : n.id ≠ m.id := fun hid => hn (hid ▸ List.mem_map_of_mem hm)
      have hmore := ih hrest hm
      rw [List.map_cons, own_of_ne hne]
      cases hn : n.isOwnedBy entry with
      | true => simpa [freeEdges, List.filter_cons, hn] using hmore
      | false =>
        simp only [freeEdges, List.filter_cons, hn, Bool.not_false, if_true, List.flatMap_cons,
          List.length_append] at hmore ⊢
        omega

theorem own_growsTo (id entry : String) (m : Module) : GrowsTo entry m (own id entry m) := by
  unfold own
  split
  · exact .inr rfl
  · exact .inl rfl

theorem owned_addOwner {g : Graph} {m : Module} (hm : m ∈ g.modules) (entry other a : String) :
    Owned (g.addOwner m.id entry).modules other a ↔
      Owned g.modules other a ∨ other = entry ∧ a = m.id := by
  constructor
  · rintro ⟨n', hn', rfl, ho⟩
    obtain ⟨n, hn, rfl⟩ := List.mem_map.1 hn'
    by_cases hid : n.id = m.id
    · rw [own, if_pos hid, Module.ownedAlsoBy_owners, Keyed.mem_addNew] at ho
      rw [own_id]
      exact ho.imp (fun h => ⟨n, hn, rfl, h⟩) fun h => ⟨h, hid⟩
    · rw [own_of_ne hid] at ho ⊢
      exact .inl ⟨n, hn, rfl, ho⟩
  · rintro (⟨n, hn, rfl, ho⟩ | ⟨rfl, rfl⟩)
    · exact ⟨own m.id entry n, List.mem_map_of_mem hn, own_id .., (own_growsTo ..).mem_owners ho⟩
    · refine ⟨own m.id other m, List.mem_map_of_mem hm, own_id .., ?_⟩
      simp [own]

theorem grows_addOwner (g : Graph) (id entry : String) :
    Grows entry g.modules (g.addOwner id entry).modules :=
  ⟨own id entry, [], (List.append_nil _).symm, fun m _ => own_growsTo id entry m, by simp⟩

theorem loads_addOwner {g : Graph} {id entry a b : String} :
    Loads (g.addOwner id entry).modules a b ↔ Loads g.modules a b := by
  refine ⟨fun hl => ?_, (grows_addOwner g id entry).loads⟩
  refine (grows_addOwner g id entry).loads_of_mem (g.addOwner id entry).names_nodup ?_ hl
  simpa [addOwner, own_id, Function.comp_def] using hl.mem_names

theorem names_addOwner (g : Graph) (id entry : String) : (g.addOwner id entry).names = g.names := by
  simp [names, addOwner, own_id, Function.comp_def]

theorem free_of_addOwner {g : Graph} {id entry a : String}
    (h : Free (g.addOwner id entry).modules entry a) : Free g.modules entry a := by
  obtain ⟨ha, hno⟩ := h
  refine ⟨?_, fun ho => hno ((grows_addOwner g id entry).owned ho)⟩
  rwa [← names, names_addOwner] at ha

theorem freelyReaches_of_addOwner {g : Graph} {id entry a b : String}
    (h : FreelyReaches (g.addOwner id entry).modules entry a b) :
    FreelyReaches g.modules entry a b :=
  ⟨free_of_addOwner h.1, Relation.ReflTransGen.mono
    (fun _ _ hstep => ⟨loads_addOwner.1 hstep.1, free_of_addOwner hstep.2⟩) _ _ h.2⟩

/-- What claiming a list of names does to a graph. -/
structure Claimed (entry : String) (pending : List String) (g g' : Graph) : Prop where
  names_eq : g'.names = g.names
  grows : Grows entry g.modules g'.modules
  owned : ∀ a ∈ pending, a ∈ g.names → Owned g'.modules entry a
  /-- A module that the entry did not own brings its dependencies along. -/
  closed : ∀ a b, ¬ Owned g.modules entry a → Owned g'.modules entry a → Loads g.modules a b →
    b ∈ g.names → Owned g'.modules entry b
  sound : ∀ a, Owned g'.modules entry a → Owned g.modules entry a ∨
    ∃ c ∈ pending, FreelyReaches g.modules entry c a

theorem Claimed.exists_map {entry : String} {pending : List String} {g g' : Graph}
    (h : Claimed entry pending g g') :
    ∃ f : Module → Module, g'.modules = g.modules.map f ∧
      ∀ m ∈ g.modules, GrowsTo entry m (f m) := by
  obtain ⟨f, new, hmodules, hf, -⟩ := h.grows
  have hlength := congrArg List.length h.names_eq
  simp only [names, hmodules, List.length_map, List.length_append] at hlength
  have hnew : new = [] := List.eq_nil_of_length_eq_zero (by omega)
  rw [hnew, List.append_nil] at hmodules
  exact ⟨f, hmodules, hf⟩

theorem Claimed.nil (entry : String) (g : Graph) : Claimed entry [] g g where
  names_eq := rfl
  grows := .refl entry g.modules
  owned := by simp
  closed _ _ hn ho := absurd ho hn
  sound _ := .inl

theorem Claimed.skip {entry id : String} {pending : List String} {g g' : Graph}
    (hid : id ∈ g.names → Owned g.modules entry id) (h : Claimed entry pending g g') :
    Claimed entry (id :: pending) g g' where
  names_eq := h.names_eq
  grows := h.grows
  owned a ha hmem := by
    rcases List.mem_cons.1 ha with rfl | ha
    · exact h.grows.owned (hid hmem)
    · exact h.owned a ha hmem
  closed := h.closed
  sound a ha := by
    refine (h.sound a ha).imp_right ?_
    rintro ⟨c, hc, hreach⟩
    exact ⟨c, List.mem_cons_of_mem _ hc, hreach⟩

theorem Claimed.visit {entry : String} {pending : List String} {g g' : Graph} {m : Module}
    (hm : m ∈ g.modules) (hfree : ¬ Owned g.modules entry m.id)
    (h : Claimed entry (m.dependencies.reverse ++ pending) (g.addOwner m.id entry) g') :
    Claimed entry (m.id :: pending) g g' := by
  have hgrows := (grows_addOwner g m.id entry).trans h.grows
  have hself : Owned g'.modules entry m.id :=
    h.grows.owned ((owned_addOwner hm entry entry m.id).2 (.inr ⟨rfl, rfl⟩))
  have hfreeId : Free g.modules entry m.id := ⟨List.mem_map_of_mem hm, hfree⟩
  refine ⟨h.names_eq.trans (names_addOwner ..), hgrows, ?_, ?_, ?_⟩
  · intro a ha hmem
    rcases List.mem_cons.1 ha with rfl | ha
    · exact hself
    · exact h.owned a (List.mem_append_right _ ha) (names_addOwner g m.id entry ▸ hmem)
  · intro a b hna hoa hl hb
    rw [← names_addOwner g m.id entry] at hb
    by_cases ham : a = m.id
    · subst ham
      obtain ⟨n, hn, hid, hdep⟩ := hl
      obtain rfl := Module.eq_of_id_eq g.names_nodup hm hn hid.symm
      exact h.owned b (List.mem_append_left _ (List.mem_reverse.2 hdep)) hb
    · refine h.closed a b (fun ho => ?_) hoa (loads_addOwner.2 hl) hb
      exact ((owned_addOwner hm entry entry a).1 ho).elim hna fun h => ham h.2
  · intro a hoa
    -- a module owned anew is this one, or one of its dependencies leads there
    rcases h.sound a hoa with ho | ⟨c, hc, hreach⟩
    · refine ((owned_addOwner hm entry entry a).1 ho).imp_right ?_
      rintro ⟨-, rfl⟩
      exact ⟨m.id, List.mem_cons_self, hfreeId, .refl⟩
    · refine .inr ?_
      rcases List.mem_append.1 hc with hc | hc
      · refine ⟨m.id, List.mem_cons_self, ?_⟩
        exact (freelyReaches_of_addOwner hreach).head hfreeId
          ⟨m, hm, rfl, List.mem_reverse.1 hc⟩
      · exact ⟨c, List.mem_cons_of_mem _ hc, freelyReaches_of_addOwner hreach⟩

section Rounds

/-- One round of claiming, on the names that are pending and the graph. The name on top is taken
off. If the entry does not own its module yet, it becomes the last owner, and the dependencies go on
top, the last of them first. -/
inductive Round (entry : String) : List String × Graph → List String × Graph → Prop where
  | missing {id : String} {pending : List String} {g : Graph} (hget : g.get? id = none) :
      Round entry (id :: pending, g) (pending, g)
  | owned {id : String} {pending : List String} {g : Graph} {m : Module}
      (hget : g.get? id = some m) (howned : entry ∈ m.owners) :
      Round entry (id :: pending, g) (pending, g)
  | free {id : String} {pending : List String} {g : Graph} {m : Module}
      (hget : g.get? id = some m) (hfree : entry ∉ m.owners) :
      Round entry (id :: pending, g) (m.dependencies.reverse ++ pending, g.addOwner id entry)

/-- How many rounds may be left: one for each pending name, and one for each dependency of a module
that the entry does not own. -/
def roundsLeft (entry : String) (s : List String × Graph) : Nat :=
  s.1.length + freeEdges entry s.2.modules

variable {entry : String} {s s' : List String × Graph} {g' : Graph}

theorem Round.roundsLeft_eq (h : Round entry s s') :
    roundsLeft entry s' + 1 = roundsLeft entry s := by
  cases h with
  | missing hget | owned hget howned =>
    simp only [roundsLeft, List.length_cons]
    omega
  | @free id pending g m hget hfree =>
    obtain ⟨hm, rfl⟩ := mem_of_get? hget
    have hedges := freeEdges_map_own g.names_nodup hm (by simpa [Module.isOwnedBy] using hfree)
    simp only [roundsLeft, addOwner, List.length_append, List.length_reverse, List.length_cons]
    omega

theorem exists_round (entry : String) (fuel : Nat) (id : String) (pending : List String)
    (g : Graph) : ∃ s, Round entry (id :: pending, g) s ∧
      claimAll entry (fuel + 1) (id :: pending) g = claimAll entry fuel s.1 s.2 := by
  rw [claimAll]
  cases hget : g.get? id with
  | none => exact ⟨_, .missing hget, rfl⟩
  | some m =>
    by_cases he : entry ∈ m.owners
    · exact ⟨_, .owned hget he, if_pos (by simpa [Module.isOwnedBy] using he)⟩
    · exact ⟨_, .free hget he, if_neg (by simpa [Module.isOwnedBy] using he)⟩

/-- With steps for all rounds that may be left, claiming goes on until no name is pending. -/
theorem rounds_claimAll {fuel : Nat} (hfuel : roundsLeft entry s ≤ fuel) :
    Relation.ReflTransGen (Round entry) s ([], claimAll entry fuel s.1 s.2) := by
  induction fuel generalizing s with
  | zero =>
    obtain ⟨pending, g⟩ := s
    have hnil : pending = [] := by
      refine List.eq_nil_of_length_eq_zero ?_
      simp only [roundsLeft] at hfuel
      omega
    subst hnil
    exact .refl
  | succ fuel ih =>
    obtain ⟨_ | ⟨id, pending⟩, g⟩ := s
    · exact .refl
    · obtain ⟨s, hround, hclaim⟩ := exists_round entry fuel id pending g
      have hleft := hround.roundsLeft_eq
      rw [hclaim]
      exact .head hround (ih (by omega))

theorem rounds_claim (g : Graph) (id entry : String) :
    Relation.ReflTransGen (Round entry) ([id], g) ([], g.claim id entry) := by
  have hedges := g.freeEdges_le_edges entry
  refine rounds_claimAll (s := ([id], g)) ?_
  simp only [roundsLeft, List.length_singleton]
  omega

theorem Claimed.round (hround : Round entry s s') (h : Claimed entry s'.1 s'.2 g') :
    Claimed entry s.1 s.2 g' := by
  cases hround with
  | missing hget => exact .skip (fun hid => absurd hid (get?_eq_none.1 hget)) h
  | @owned id pending g m hget howned =>
    obtain ⟨hm, rfl⟩ := mem_of_get? hget
    exact .skip (fun _ => (Module.owned_iff_mem g.names_nodup hm entry).2 howned) h
  | @free id pending g m hget hfree =>
    obtain ⟨hm, rfl⟩ := mem_of_get? hget
    exact .visit hm (fun ho => hfree ((Module.owned_iff_mem g.names_nodup hm entry).1 ho)) h

theorem claimed_of_rounds (h : Relation.ReflTransGen (Round entry) s ([], g')) :
    Claimed entry s.1 s.2 g' := by
  induction h using Relation.ReflTransGen.head_induction_on with
  | refl => exact .nil entry g'
  | head hround _ ih => exact .round hround ih

end Rounds

theorem claimed_claim (g : Graph) (id entry : String) :
    Claimed entry [id] g (g.claim id entry) :=
  claimed_of_rounds (rounds_claim g id entry)

theorem exists_of_mem_claim {g : Graph} {id entry : String} {m' : Module}
    (h : m' ∈ (g.claim id entry).modules) : ∃ m ∈ g.modules, GrowsTo entry m m' := by
  obtain ⟨f, hmodules, hf⟩ := (claimed_claim g id entry).exists_map
  rw [hmodules] at h
  obtain ⟨m, hm, rfl⟩ := List.mem_map.1 h
  exact ⟨m, hm, hf m hm⟩

end Graph

end ModuleBundler
