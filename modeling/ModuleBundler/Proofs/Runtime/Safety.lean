import Mathlib.Data.List.Nodup
import ModuleBundler.Proofs.Graph.Reach
import ModuleBundler.Proofs.Runtime.Loader

/-! Scripts over a registry that is closed under dependencies come to their end. The cache is the
list of the modules that were started, so none is started twice, and each module that starts leaves
one less that can still be started; this bounds how deep bodies run inside bodies. -/
namespace ModuleBundler.Runtime

variable {ω ν : Type}

/-- What holds of a running script that may start the modules with some names. -/
structure Sound (ids : List String) (s : Store ω) : Prop where
  starts : s.trace.filterMap Event.start? = s.cache
  nodup : (s.cache.map Prod.fst).Nodup
  known : s.cache.map Prod.fst ⊆ ids
  returned : ∀ id record, .returned id record ∈ s.trace → (id, record) ∈ s.cache
  /-- Once a module was started, a call for it returns at once, with its record. -/
  prompt : ∀ before after id record, s.trace = before ++ .called id :: after →
    .started id record ∈ before → ∃ rest, after = .returned id record :: rest

def unstarted (ids : List String) (cache : List (String × Nat)) : Nat :=
  (ids.filter fun id => !(cache.map Prod.fst).contains id).length

theorem record_unique {cache : List (String × Nat)} (hnd : (cache.map Prod.fst).Nodup) {id : String}
    {record record' : Nat} (h : (id, record) ∈ cache) (h' : (id, record') ∈ cache) :
    record = record' :=
  congrArg Prod.snd (List.inj_on_of_nodup_map hnd h h' rfl)

theorem unstarted_anti {ids : List String} {cache cache' : List (String × Nat)}
    (h : cache <+: cache') : unstarted ids cache' ≤ unstarted ids cache := by
  refine (List.monotone_filter_right ids fun id hid => ?_).length_le
  simp only [Bool.not_eq_true', List.contains_eq_mem, decide_eq_false_iff_not] at hid ⊢
  exact fun hmem => hid ((h.map Prod.fst).subset hmem)

theorem unstarted_append {ids : List String} {cache : List (String × Nat)} {id : String}
    (hid : id ∈ ids) (hfree : id ∉ cache.map Prod.fst) (record : Nat) :
    unstarted ids (cache ++ [(id, record)]) < unstarted ids cache := by
  have hsub : (ids.filter fun a => !((cache ++ [(id, record)]).map Prod.fst).contains a) =
      (ids.filter fun a => !(cache.map Prod.fst).contains a).filter fun a => a ≠ id := by
    rw [List.filter_filter]
    refine List.filter_congr fun a _ => ?_
    by_cases ha : a = id <;> simp [ha]
  rw [unstarted, hsub, unstarted, List.length_filter_lt_length_iff_exists]
  exact ⟨id, List.mem_filter.2 ⟨hid, by simpa using hfree⟩, by simp⟩

theorem started_mem_iff {s : Store ω} {ids : List String} (h : Sound ids s) {id : String}
    {record : Nat} : .started id record ∈ s.trace ↔ (id, record) ∈ s.cache := by
  rw [← h.starts, List.mem_filterMap]
  constructor
  · exact fun hmem => ⟨_, hmem, rfl⟩
  · rintro ⟨e, hmem, he⟩
    cases e <;> simp only [Event.start?, Option.some.injEq, Prod.mk.injEq, reduceCtorEq] at he
    obtain ⟨rfl, rfl⟩ := he
    exact hmem

theorem append_cons_cases {α : Type} {before after old new : List α} {a : α}
    (h : old ++ new = before ++ a :: after) :
    (∃ rest, old = before ++ a :: rest ∧ after = rest ++ new) ∨
      ∃ rest, before = old ++ rest ∧ new = rest ++ a :: after := by
  rcases List.append_eq_append_iff.1 h with ⟨rest, rfl, rfl⟩ | ⟨rest, rfl, hrest⟩
  · exact .inr ⟨rest, rfl, rfl⟩
  · cases rest with
    | nil => exact .inr ⟨[], by simp, by simpa using hrest.symm⟩
    | cons b rest =>
      obtain ⟨rfl, rfl⟩ := List.cons.inj hrest
      exact .inl ⟨rest, rfl, rfl⟩

section Steps

variable {ids : List String} {s : Store ω} {id : String} {record : Nat}

/-- What happens next keeps a script sound: whatever starts has a record in the cache, calls return
records from there, and new calls for modules that were started return at once. -/
theorem Sound.extend (h : Sound ids s) {s' : Store ω} (new : List Event)
    (htrace : s'.trace = s.trace ++ new)
    (hcache : s'.cache = s.cache ++ new.filterMap Event.start?)
    (hnodup : (s'.cache.map Prod.fst).Nodup) (hknown : s'.cache.map Prod.fst ⊆ ids)
    (hreturned : ∀ id record, .returned id record ∈ new → (id, record) ∈ s'.cache)
    (hprompt : ∀ rest after id record, new = rest ++ .called id :: after →
      .started id record ∈ s.trace ++ rest → ∃ rest, after = .returned id record :: rest) :
    Sound ids s' where
  starts := by rw [htrace, List.filterMap_append, h.starts, hcache]
  nodup := hnodup
  known := hknown
  returned id record hmem := by
    rw [htrace] at hmem
    rcases List.mem_append.1 hmem with hmem | hmem
    · exact hcache ▸ List.mem_append_left _ (h.returned id record hmem)
    · exact hreturned id record hmem
  prompt before after id record heq hstart := by
    rw [htrace] at heq
    -- a call is an old one, and then so is what follows it, or it is one of the new ones
    rcases append_cons_cases heq with ⟨rest, hold, rfl⟩ | ⟨rest, rfl, hrest⟩
    · obtain ⟨rest', rfl⟩ := h.prompt before rest id record hold hstart
      exact ⟨rest' ++ new, rfl⟩
    · exact hprompt rest after id record hrest hstart

theorem Sound.hit (h : Sound ids s) (hget : (id, record) ∈ s.cache) :
    Sound ids ((s.log (.called id)).log (.returned id record)) := by
  refine h.extend [.called id, .returned id record] (by simp [Store.log])
    (List.append_nil _).symm h.nodup h.known ?_ ?_
  · intro id' record' hmem
    obtain ⟨rfl, rfl⟩ : id' = id ∧ record' = record := by simpa using hmem
    exact hget
  · intro rest after id' record' hsplit hstart
    rcases rest with _ | ⟨e, _ | ⟨e', _ | ⟨e'', rest⟩⟩⟩ <;> cases hsplit
    rw [List.append_nil, started_mem_iff h] at hstart
    exact ⟨[], by rw [record_unique h.nodup hstart hget]⟩

theorem Sound.start (h : Sound ids s) (hid : id ∈ ids) (hfree : id ∉ s.cache.map Prod.fst)
    (host : Host ω ν) :
    Sound ids (((s.log (.called id)).create host id).log (.started id s.cache.length)) := by
  refine h.extend [.called id, .started id s.cache.length] (by simp [Store.log, Store.create])
    rfl ?_ ?_ (by simp) ?_
  · simp only [Store.log, Store.create, List.map_append, List.nodup_append]
    refine ⟨h.nodup, by simp, fun a ha b hb hab => hfree ?_⟩
    obtain rfl : b = id := by simpa using hb
    exact hab ▸ ha
  · simp only [Store.log, Store.create, List.map_append, List.append_subset]
    exact ⟨h.known, by simpa using hid⟩
  · intro rest after id' record' hsplit hstart
    rcases rest with _ | ⟨e, _ | ⟨e', _ | ⟨e'', rest⟩⟩⟩ <;> cases hsplit
    rw [List.append_nil, started_mem_iff h] at hstart
    exact absurd (List.mem_map_of_mem hstart) hfree

theorem Sound.finish (h : Sound ids s) (hget : (id, record) ∈ s.cache) :
    Sound ids ((s.log (.finished id record)).log (.returned id record)) := by
  refine h.extend [.finished id record, .returned id record] (by simp [Store.log])
    (List.append_nil _).symm h.nodup h.known ?_ ?_
  · intro id' record' hmem
    obtain ⟨rfl, rfl⟩ : id' = id ∧ record' = record := by simpa using hmem
    exact hget
  · intro rest after id' record' hsplit hstart
    rcases rest with _ | ⟨e, _ | ⟨e', _ | ⟨e'', rest⟩⟩⟩ <;> cases hsplit

theorem Sound.work (h : Sound ids s) (world : ω) : Sound ids { s with world } :=
  ⟨h.starts, h.nodup, h.known, h.returned, h.prompt⟩

end Steps

section Runs

variable {host : Host ω ν} {registry : List Module} {bodies : Module → Nat → Body ω ν}

theorem load_hit {levels : Nat} {id : String} {s : Store ω} {record : Nat}
    (h : Keyed.get? id s.cache = some record) :
    load host registry bodies levels id s = pure (host.exports record s.world,
      (s.log (.called id)).log (.returned id record)) := by
  have hlog : Keyed.get? id (s.log (.called id)).cache = some record := h
  rw [load.eq_def]
  simp only [hlog]
  rfl

theorem load_miss {levels : Nat} {id : String} {s : Store ω} {m : Module}
    (h : Keyed.get? id s.cache = none) (hm : registry.find? (fun m => m.id = id) = some m) :
    load host registry bodies (levels + 1) id s = (do
      let s' ← (bodies m s.cache.length).run Store.world Store.work
        (load host registry bodies levels)
        (((s.log (.called id)).create host id).log (.started id s.cache.length))
      return (host.exports s.cache.length s'.world,
        (s'.log (.finished id s.cache.length)).log (.returned id s.cache.length))) := by
  have hlog : Keyed.get? id (s.log (.called id)).cache = none := h
  rw [load.eq_def]
  simp only [hlog, hm]
  rfl

/-- With enough levels, calls end as they do with any more levels, and soundly. -/
def Ends (ids : List String) (load : Nat → String → Store ω → Run (ν × Store ω)) (enough : Nat) :
    Prop :=
  ∀ s id, Sound ids s → unstarted ids s.cache ≤ enough → id ∈ ids →
    ∃ v s', (∀ levels ≥ enough, load levels id s = pure (v, s')) ∧ Sound ids s' ∧
      s.cache <+: s'.cache ∧ id ∈ s'.cache.map Prod.fst

theorem Ends.run {ids : List String} {load : Nat → String → Store ω → Run (ν × Store ω)}
    {enough : Nat} (h : Ends ids load enough) {b : Body ω ν} (hb : b.CallsOnly ids) {s : Store ω}
    (hs : Sound ids s) (hfree : unstarted ids s.cache ≤ enough) :
    ∃ s', (∀ levels ≥ enough, b.run Store.world Store.work (load levels) s = pure s') ∧
      Sound ids s' ∧ s.cache <+: s'.cache := by
  induction hb generalizing s with
  | done => exact ⟨s, fun _ _ => rfl, hs, List.prefix_refl _⟩
  | @work change rest _ ih => exact ih (change s.world) (hs.work (change s.world)) hfree
  | @load id rest hid _ ih =>
    obtain ⟨v, s₁, hload, hs₁, hcache, -⟩ := h s id hs hfree hid
    obtain ⟨s₂, hrest, hs₂, hcache₂⟩ := ih v hs₁ (Nat.le_trans (unstarted_anti hcache) hfree)
    refine ⟨s₂, fun levels hlevels => ?_, hs₂, hcache.trans hcache₂⟩
    rw [Body.run, hload levels hlevels]
    exact hrest levels hlevels

theorem ends_hit {ids : List String} {s : Store ω} {id : String} {record : Nat} (hs : Sound ids s)
    (hget : Keyed.get? id s.cache = some record) (enough : Nat) :
    ∃ v s', (∀ levels ≥ enough, load host registry bodies levels id s = pure (v, s')) ∧
      Sound ids s' ∧ s.cache <+: s'.cache ∧ id ∈ s'.cache.map Prod.fst := by
  have hmem := Keyed.mem_of_get? hget
  exact ⟨_, _, fun _ _ => load_hit hget, hs.hit hmem, List.prefix_refl _, List.mem_map_of_mem hmem⟩

theorem ends_load (host : Host ω ν) (hnd : (registry.map Module.id).Nodup)
    (hbodies : ∀ m ∈ registry, ∀ record, (bodies m record).CallsOnly (registry.map Module.id))
    (enough : Nat) : Ends (registry.map Module.id) (load host registry bodies) enough := by
  induction enough with
  | zero =>
    intro s id hs hfree hid
    obtain ⟨record, hget⟩ : ∃ record, Keyed.get? id s.cache = some record := by
      refine Option.isSome_iff_exists.1 (Keyed.get?_isSome.2 (by_contra fun hmiss => ?_))
      have := unstarted_append hid hmiss 0
      omega
    exact ends_hit hs hget 0
  | succ enough ih =>
    intro s id hs hfree hid
    cases hget : Keyed.get? id s.cache with
    | some record => exact ends_hit hs hget (enough + 1)
    | none =>
      have hmiss := Keyed.get?_eq_none.1 hget
      obtain ⟨m, hm, rfl⟩ := List.mem_map.1 hid
      have hfind := Module.find?_of_mem hnd hm
      have hstart := hs.start hid hmiss host
      -- a module that starts leaves one less to start, so its body has levels enough
      have hless := unstarted_append hid hmiss s.cache.length
      obtain ⟨s', hrun, hs', hcache⟩ := ih.run (hbodies m hm s.cache.length) hstart
        (show unstarted _ (s.cache ++ [(m.id, s.cache.length)]) ≤ enough by omega)
      have hrecord : (m.id, s.cache.length) ∈ s'.cache :=
        hcache.subset (List.mem_append_right _ (List.mem_singleton_self _))
      refine ⟨host.exports s.cache.length s'.world,
        (s'.log (.finished m.id s.cache.length)).log (.returned m.id s.cache.length),
        fun levels hlevels => ?_, hs'.finish hrecord, (List.prefix_append _ _).trans hcache,
        List.mem_map_of_mem hrecord⟩
      obtain ⟨levels, rfl⟩ := Nat.exists_eq_add_of_lt (show 0 < levels by omega)
      rw [Nat.zero_add, load_miss hget hfind, hrun levels (by omega)]
      rfl

end Runs

end ModuleBundler.Runtime
