import ModuleBundler.Proofs.Graph.Claim

/-! The region that claiming gives to an entry. Claiming goes in rounds, which come to an end
whatever the graph, and always to the same one. The entry is then added to just those modules that
dependencies lead to past modules that it did not own, and nothing else is changed. -/
namespace ModuleBundler

open Relation (ReflTransGen)
open ModuleBundler.Module (FreelyReaches Free Loads Owned Reaches)

namespace Module

variable {modules : List Module} {entry a b : String}

/-- A module that an entry owns brings along its dependencies, as far as they are there. -/
def Closed (modules : List Module) (entry : String) : Prop :=
  ∀ a b, Owned modules entry a → Loads modules a b → b ∈ modules.map Module.id →
    Owned modules entry b

theorem FreelyReaches.free (h : FreelyReaches modules entry a b) : Free modules entry b := by
  obtain ⟨ha, hpath⟩ := h
  cases hpath with
  | refl => exact ha
  | tail _ hlast => exact hlast.2

theorem Closed.freelyReaches (hclosed : Closed modules entry) (hfree : Free modules entry b)
    (h : Reaches modules a b) : FreelyReaches modules entry a b := by
  induction h using ReflTransGen.head_induction_on with
  | refl => exact ⟨hfree, .refl⟩
  | @head a c hload _ ih =>
    have hc : Free modules entry c := ih.1
    have ha : Free modules entry a :=
      ⟨hload.mem_names, fun howned => hc.2 (hclosed a c howned hload hc.1)⟩
    exact ih.head ha hload

theorem Closed.owned_or_freelyReaches_iff (hclosed : Closed modules entry) :
    Owned modules entry b ∨ FreelyReaches modules entry a b ↔
      Owned modules entry b ∨ b ∈ modules.map Module.id ∧ Reaches modules a b := by
  constructor
  · exact Or.imp_right fun h => ⟨h.free.1, h.reaches⟩
  · rintro (howned | ⟨hb, hreach⟩)
    · exact .inl howned
    · by_cases howned : Owned modules entry b
      · exact .inl howned
      · exact .inr (hclosed.freelyReaches ⟨hb, howned⟩ hreach)

end Module

namespace Graph

section Rounds

variable {entry : String} {s t t' : List String × Graph}

/-- There are no endless rounds, on whatever graph. -/
theorem wellFounded_round (entry : String) :
    WellFounded fun t s : List String × Graph => Round entry s t := by
  refine Subrelation.wf (r := InvImage (· < ·) (roundsLeft entry)) (fun {t s} h => ?_)
    (InvImage.wf _ Nat.lt_wfRel.wf)
  show roundsLeft entry t < roundsLeft entry s
  exact Nat.lt_of_succ_le (Nat.le_of_eq h.roundsLeft_eq)

theorem Round.unique (h : Round entry s t) (h' : Round entry s t') : t = t' := by
  cases h with
  | missing hget =>
    cases h' with
    | missing => rfl
    | owned hget' | free hget' => cases hget.symm.trans hget'
  | owned hget howned =>
    cases h' with
    | missing | owned => rfl
    | free hget' hfree =>
      obtain rfl := Option.some.inj (hget.symm.trans hget')
      exact absurd howned hfree
  | free hget hfree =>
    cases h' with
    | missing hget' => cases hget.symm.trans hget'
    | owned hget' howned =>
      obtain rfl := Option.some.inj (hget.symm.trans hget')
      exact absurd howned hfree
    | free hget' =>
      obtain rfl := Option.some.inj (hget.symm.trans hget')
      rfl

theorem rounds_end_iff (g : Graph) (id entry : String) (t : List String × Graph) :
    (ReflTransGen (Round entry) ([id], g) t ∧ ∀ t', ¬ Round entry t t') ↔
      t = ([], g.claim id entry) := by
  have hend : ∀ t', ¬ Round entry ([], g.claim id entry) t' := nofun
  constructor
  · rintro ⟨hrounds, hlast⟩
    have hunique : Relator.RightUnique (Round entry) := fun _ _ _ h h' => h.unique h'
    rcases hrounds.total_of_right_unique hunique (rounds_claim g id entry) with hmore | hmore
    · rcases hmore.cases_head with heq | ⟨next, hround, -⟩
      · exact heq
      · exact absurd hround (hlast next)
    · rcases hmore.cases_head with heq | ⟨next, hround, -⟩
      · exact heq.symm
      · exact absurd hround (hend next)
  · rintro rfl
    exact ⟨rounds_claim g id entry, hend⟩

end Rounds

section Region

variable {g g' : Graph} {id entry : String}

theorem Claimed.owned_of_freelyReaches {pending : List String} (h : Claimed entry pending g g')
    {c a : String} (hc : c ∈ pending) (hreach : FreelyReaches g.modules entry c a) :
    Owned g'.modules entry a := by
  obtain ⟨hfree, hpath⟩ := hreach
  induction hpath with
  | refl => exact h.owned c hc hfree.1
  | @tail b a hpath hlast ih =>
    have hb : Free g.modules entry b := FreelyReaches.free ⟨hfree, hpath⟩
    exact h.closed b a hb.2 ih hlast.1 hlast.2.1

theorem owned_claim_iff (g : Graph) (id entry a : String) :
    Owned (g.claim id entry).modules entry a ↔
      Owned g.modules entry a ∨ FreelyReaches g.modules entry id a := by
  have hclaimed := claimed_claim g id entry
  constructor
  · intro howned
    refine (hclaimed.sound a howned).imp_right ?_
    rintro ⟨c, hc, hreach⟩
    exact List.mem_singleton.1 hc ▸ hreach
  · rintro (howned | hreach)
    · exact hclaimed.grows.owned howned
    · exact hclaimed.owned_of_freelyReaches (List.mem_singleton_self id) hreach

open Classical in
theorem modules_claim (g : Graph) (id entry : String) :
    (g.claim id entry).modules = g.modules.map fun m =>
      if FreelyReaches g.modules entry id m.id then { m with owners := m.owners ++ [entry] }
      else m := by
  obtain ⟨f, hmodules, hf⟩ := (claimed_claim g id entry).exists_map
  rw [hmodules]
  refine List.map_congr_left fun m hm => ?_
  have hmem : f m ∈ (g.claim id entry).modules := hmodules ▸ List.mem_map_of_mem hm
  have hid : (f m).id = m.id := (hf m hm).id_eq
  have howned : entry ∈ (f m).owners ↔
      entry ∈ m.owners ∨ FreelyReaches g.modules entry id m.id := by
    rw [← Module.owned_iff_mem (g.claim id entry).names_nodup hmem, hid, owned_claim_iff,
      Module.owned_iff_mem g.names_nodup hm]
  -- a module has the entry added exactly if claiming has reached it
  by_cases hreach : FreelyReaches g.modules entry id m.id
  · have hfree : entry ∉ m.owners := fun he =>
      hreach.free.2 ((Module.owned_iff_mem g.names_nodup hm entry).2 he)
    rw [if_pos hreach]
    rcases hf m hm with heq | heq
    · have hadded : entry ∈ (f m).owners := howned.2 (.inr hreach)
      rw [heq] at hadded
      exact absurd hadded hfree
    · rw [heq, Module.ownedAlsoBy, Keyed.addNew_of_not_mem hfree]
  · rw [if_neg hreach]
    rcases hf m hm with heq | heq
    · exact heq
    · have hadded : entry ∈ (f m).owners := by
        rw [heq]
        exact Keyed.mem_addNew.2 (.inr rfl)
      have he : entry ∈ m.owners := (howned.1 hadded).resolve_right hreach
      rw [heq, Module.ownedAlsoBy_of_mem he]

open Classical in
/-- Claiming a module for an entry. The rounds of it end on every graph, and come to one result.
That has the entry as the last owner of each module that dependencies lead to, from the one that is
claimed, past modules that the entry did not own; all else is as it was. If what the entry owned was
closed, it owns afterwards what it owned and all that can be reached. -/
theorem claim_gives_region (g : Graph) (id entry : String) :
    (WellFounded fun t s : List String × Graph => Round entry s t) ∧
      (∀ t, (ReflTransGen (Round entry) ([id], g) t ∧ ∀ t', ¬ Round entry t t') ↔
        t = ([], g.claim id entry)) ∧
      ((g.claim id entry).modules = g.modules.map fun m =>
        if FreelyReaches g.modules entry id m.id then { m with owners := m.owners ++ [entry] }
        else m) ∧
      (∀ a, Owned (g.claim id entry).modules entry a ↔
        Owned g.modules entry a ∨ FreelyReaches g.modules entry id a) ∧
      (Module.Closed g.modules entry → ∀ a, Owned (g.claim id entry).modules entry a ↔
        Owned g.modules entry a ∨ a ∈ g.names ∧ Reaches g.modules id a) := by
  refine ⟨wellFounded_round entry, rounds_end_iff g id entry, modules_claim g id entry,
    owned_claim_iff g id entry, fun hclosed a => ?_⟩
  rw [owned_claim_iff, hclosed.owned_or_freelyReaches_iff]
  rfl

def tangled : Graph where
  modules := [
    ⟨"./main.js", .ofString "/app/main.js", "", ["./a.js", "./gone.js"], ["one"]⟩,
    ⟨"./a.js", .ofString "/app/a.js", "", ["./a.js", "./main.js", "./shared.js"], ["one"]⟩,
    ⟨"./shared.js", .ofString "/app/shared.js", "", [], ["one", "two"]⟩]
  names_nodup := by decide

theorem closed_tangled : Module.Closed tangled.modules "two" := by
  rintro a b ⟨m, hm, rfl, howned⟩ ⟨n, hn, hid, hb⟩ -
  have hshared : m.id = "./shared.js" := by
    simp only [tangled, List.mem_cons, List.not_mem_nil, or_false] at hm
    rcases hm with rfl | rfl | rfl
    · simp at howned
    · simp at howned
    · rfl
  simp only [tangled, List.mem_cons, List.not_mem_nil, or_false] at hn
  rcases hn with rfl | rfl | rfl
  · simp [hshared] at hid
  · simp [hshared] at hid
  · cases hb

theorem claim_gives_region_tangled :
    Module.Closed tangled.modules "two" ∧
      (tangled.claim "./main.js" "two").modules.map Module.owners =
        [["one", "two"], ["one", "two"], ["one", "two"]] ∧
      ∀ a, Owned (tangled.claim "./main.js" "two").modules "two" a ↔
        Owned tangled.modules "two" a ∨ a ∈ tangled.names ∧ Reaches tangled.modules "./main.js" a :=
  ⟨closed_tangled, by decide,
    (claim_gives_region tangled "./main.js" "two").2.2.2.2 closed_tangled⟩

end Region

end Graph

end ModuleBundler
