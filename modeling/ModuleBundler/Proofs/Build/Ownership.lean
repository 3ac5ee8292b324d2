import ModuleBundler.Proofs.Build.Descent
import ModuleBundler.Proofs.Graph.Claim

/-! What building a module for an entry does to the graph. While the modules on the way down are
begun and not finished, their dependencies may be missing; all other modules that the entry owns
are closed under dependencies, which is why claiming may stop at a module that is owned already. -/
namespace ModuleBundler

open ModuleBundler.Module (Owned Loads Reaches Grows)

namespace Graph

/-- Only the modules that are begun may lack dependencies, or have some that the entry does not
own. -/
structure Settled (entry : String) (begun : List String) (g : Graph) : Prop where
  complete : ∀ a b, a ∉ begun → Loads g.modules a b → b ∈ g.names
  closed : ∀ a b, a ∉ begun → Owned g.modules entry a → Loads g.modules a b →
    Owned g.modules entry b
  begun_owned : ∀ a ∈ begun, Owned g.modules entry a

/-- The graph has changed so that an entry owns some roots with all that they need. -/
structure Serves (entry : String) (roots : List String) (g g' : Graph) : Prop where
  grows : Grows entry g.modules g'.modules
  settled : ∀ begun, Settled entry begun g → Settled entry begun g'
  owned : ∀ a ∈ roots, Owned g'.modules entry a
  reached : ∀ a, Owned g'.modules entry a → Owned g.modules entry a ∨
    ∃ r ∈ roots, Reaches g'.modules r a

theorem Serves.nil (entry : String) (g : Graph) : Serves entry [] g g where
  grows := .refl entry g.modules
  settled _ h := h
  owned := by simp
  reached _ := .inl

theorem Serves.next {entry root : String} {more : List String} {g g' g'' : Graph}
    (h : Serves entry [root] g g') (h' : Serves entry more g' g'') :
    Serves entry (root :: more) g g'' where
  grows := h.grows.trans h'.grows
  settled begun hs := h'.settled begun (h.settled begun hs)
  owned a ha := by
    rcases List.mem_cons.1 ha with rfl | ha
    · exact h'.grows.owned (h.owned a List.mem_cons_self)
    · exact h'.owned a ha
  reached a ha := by
    rcases h'.reached a ha with ha | ⟨r, hr, hreach⟩
    · refine (h.reached a ha).imp_right ?_
      rintro ⟨r, hr, hreach⟩
      obtain rfl := List.mem_singleton.1 hr
      exact ⟨r, List.mem_cons_self, h'.grows.reaches hreach⟩
    · exact .inr ⟨r, List.mem_cons_of_mem _ hr, hreach⟩

theorem Serves.claim {entry id : String} {g : Graph} (hid : id ∈ g.names) :
    Serves entry [id] g (g.claim id entry) := by
  -- the entry owns the modules that are begun, so claiming does not reach into them
  have h := claimed_claim g id entry
  have hloads : ∀ a b, Loads (g.claim id entry).modules a b → Loads g.modules a b := by
    intro a b hl
    refine h.grows.loads_of_mem (g.claim id entry).names_nodup ?_ hl
    have ha : a ∈ (g.claim id entry).names := hl.mem_names
    rwa [h.names_eq] at ha
  refine ⟨h.grows, fun begun hs => ⟨?_, ?_, ?_⟩, ?_, ?_⟩
  · intro a b ha hl
    rw [h.names_eq]
    exact hs.complete a b ha (hloads a b hl)
  · intro a b ha ho hl
    by_cases hbefore : Owned g.modules entry a
    · exact h.grows.owned (hs.closed a b ha hbefore (hloads a b hl))
    · exact h.closed a b hbefore ho (hloads a b hl) (hs.complete a b ha (hloads a b hl))
  · exact fun a ha => h.grows.owned (hs.begun_owned a ha)
  · intro a ha
    obtain rfl := List.mem_singleton.1 ha
    exact h.owned a List.mem_cons_self hid
  · intro a ha
    refine (h.sound a ha).imp_right ?_
    rintro ⟨c, hc, hreach⟩
    exact ⟨c, hc, h.grows.reaches hreach.reaches⟩

theorem Serves.found {entry : String} {g g' : Graph} {m : Module} (hm : m.id ∉ g.names)
    (howners : m.owners = [entry]) (h : Serves entry m.dependencies (g.insert m) g') :
    Serves entry [m.id] g g' := by
  have hmem := mem_insert_self hm
  have hself : Owned (g.insert m).modules entry m.id := ⟨m, hmem, rfl, by simp [howners]⟩
  have hgrows : Grows entry g.modules (g.insert m).modules := .insert hm howners
  have hdeps : ∀ b, Loads g'.modules m.id b → b ∈ m.dependencies := by
    intro b hl
    obtain ⟨n, hn, hid, hb⟩ := h.grows.loads_of_mem g'.names_nodup hself.mem_names hl
    rwa [Module.eq_of_id_eq (g.insert m).names_nodup hn hmem hid] at hb
  refine ⟨hgrows.trans h.grows, fun begun hs => ?_, ?_, ?_⟩
  -- the new module is begun while its dependencies are served, and finished after that
  · have hbegun : Settled entry (m.id :: begun) (g.insert m) := by
      refine ⟨fun a b ha hl => ?_, fun a b ha ho hl => ?_, fun a ha => ?_⟩
      · rw [List.mem_cons, not_or] at ha
        exact hgrows.names_subset (hs.complete a b ha.2 (hl.of_insert hm ha.1))
      · rw [List.mem_cons, not_or] at ha
        exact hgrows.owned (hs.closed a b ha.2 (ho.of_insert hm ha.1) (hl.of_insert hm ha.1))
      · rcases List.mem_cons.1 ha with rfl | ha
        · exact hself
        · exact hgrows.owned (hs.begun_owned a ha)
    have hdone := h.settled _ hbegun
    have hleave : ∀ a, a ∉ begun → a ≠ m.id → a ∉ m.id :: begun := by
      intro a ha hne hin
      exact (List.mem_cons.1 hin).elim hne ha
    refine ⟨fun a b ha hl => ?_, fun a b ha ho hl => ?_, fun a ha => ?_⟩
    · by_cases hid : a = m.id
      · subst hid
        exact (h.owned b (hdeps b hl)).mem_names
      · exact hdone.complete a b (hleave a ha hid) hl
    · by_cases hid : a = m.id
      · subst hid
        exact h.owned b (hdeps b hl)
      · exact hdone.closed a b (hleave a ha hid) ho hl
    · exact hdone.begun_owned a (List.mem_cons_of_mem _ ha)
  · intro a ha
    obtain rfl := List.mem_singleton.1 ha
    exact h.grows.owned hself
  · intro a ha
    have hroot : ∀ b ∈ m.dependencies, Loads g'.modules m.id b := fun b hb =>
      h.grows.loads ⟨m, hmem, rfl, hb⟩
    rcases h.reached a ha with ha | ⟨r, hr, hreach⟩
    · by_cases hid : a = m.id
      · exact .inr ⟨m.id, List.mem_singleton_self _, hid ▸ .refl⟩
      · exact .inl (ha.of_insert hm hid)
    · exact .inr ⟨m.id, List.mem_singleton_self _, .head (hroot r hr) hreach⟩

end Graph

open Build ModuleBundler.Graph in
/-- A module that is built for an entry is owned by it, with all that it needs. -/
theorem Sources.serves_buildModule {s : Sources} {entry : String} {levels : Nat} {path : Path}
    {p q : Progress} (h : outcome (s.buildModule entry levels path) p = (.ok ⟨⟩, q)) :
    Serves entry [s.name path] p.graph q.graph := by
  refine buildModule_induction_ok (fun path g g' => Serves entry [s.name path] g g')
    (fun paths g g' => Serves entry (paths.map s.name) g g') ?_ ?_ ?_ ?_ h
  · exact fun path g hid => .claim hid
  · intro path g d g' hid _ hall
    rw [d.map_name_paths] at hall
    exact .found (m := d.module s entry path) hid rfl hall
  · exact .nil entry
  · exact fun path more g g' g'' hpath hmore => hpath.next hmore

end ModuleBundler
