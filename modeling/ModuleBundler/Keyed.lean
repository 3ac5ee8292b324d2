/-!
Lists of pairs as maps that keep the order in which keys were first put in.
-/
namespace ModuleBundler.Keyed

variable {κ α : Type} [DecidableEq κ]

/-- Gives a key a value. A new key goes to the end, a known one keeps its place. -/
def put (key : κ) (value : α) : List (κ × α) → List (κ × α)
  | [] => [(key, value)]
  | (k, v) :: more => if k = key then (k, value) :: more else (k, v) :: put key value more

def get? (key : κ) : List (κ × α) → Option α
  | [] => none
  | (k, v) :: more => if k = key then some v else get? key more

theorem get?_eq_none {key : κ} {map : List (κ × α)} :
    get? key map = none ↔ key ∉ map.map Prod.fst := by
  induction map with
  | nil => simp [get?]
  | cons p more ih =>
    by_cases hk : p.1 = key
    · simp [get?, hk]
    · simp [get?, hk, ih, Ne.symm hk]

theorem get?_isSome {key : κ} {map : List (κ × α)} :
    (get? key map).isSome = true ↔ key ∈ map.map Prod.fst := by
  rw [Option.isSome_iff_ne_none, ne_eq, get?_eq_none, Decidable.not_not]

theorem get?_of_mem {key : κ} {value : α} {map : List (κ × α)} (hnd : (map.map Prod.fst).Nodup)
    (h : (key, value) ∈ map) : get? key map = some value := by
  induction map with
  | nil => cases h
  | cons p more ih =>
    obtain ⟨hp, hmore⟩ := List.nodup_cons.1 hnd
    rcases List.mem_cons.1 h with rfl | h
    · simp [get?]
    · have hne : p.1 ≠ key := fun heq => hp (heq ▸ List.mem_map_of_mem h)
      rw [get?, if_neg hne, ih hmore h]

theorem mem_of_get? {key : κ} {value : α} {map : List (κ × α)} (h : get? key map = some value) :
    (key, value) ∈ map := by
  induction map with
  | nil => cases h
  | cons p more ih =>
    rw [get?] at h
    split at h
    · next hk =>
      obtain rfl := Option.some.inj h
      exact hk ▸ List.mem_cons_self
    · exact List.mem_cons_of_mem _ (ih h)

theorem get?_put (key k : κ) (value : α) (map : List (κ × α)) :
    get? k (put key value map) = if k = key then some value else get? k map := by
  induction map with
  | nil => simp [put, get?, eq_comm]
  | cons p more ih =>
    by_cases hp : p.1 = key
    · by_cases hk : k = key
      · simp [put, get?, hp, hk]
      · simp [put, get?, hp, hk, Ne.symm hk]
    · by_cases hk : p.1 = k
      · subst hk
        simp [put, get?, hp]
      · simp [put, get?, hp, hk, ih]

/-- Of the pairs that are put in one after the other, the last with a key counts. -/
theorem get?_foldl_put (k : κ) (pairs map : List (κ × α)) :
    get? k (pairs.foldl (fun map p => put p.1 p.2 map) map) =
      ((pairs.reverse.find? fun p => p.1 = k).map Prod.snd).or (get? k map) := by
  induction pairs generalizing map with
  | nil => rfl
  | cons p more ih =>
    -- a later pair with the key hides the first one
    rw [List.foldl_cons, ih, get?_put, List.reverse_cons, List.find?_append]
    cases more.reverse.find? fun q => q.1 = k with
    | some q => rfl
    | none =>
      by_cases hk : p.1 = k
      · simp [hk]
      · simp [hk, Ne.symm hk]

/-- The map that holds the pairs, put in one after the other. -/
def ofPairs (pairs : List (κ × α)) : List (κ × α) :=
  pairs.foldl (fun map p => put p.1 p.2 map) []

theorem map_fst_put (key : κ) (value : α) (map : List (κ × α)) :
    (put key value map).map Prod.fst =
      if key ∈ map.map Prod.fst then map.map Prod.fst else map.map Prod.fst ++ [key] := by
  induction map with
  | nil => rfl
  | cons p more ih =>
    by_cases hk : p.1 = key
    · simp [put, hk]
    · simp only [put, if_neg hk, List.map_cons, ih, List.mem_cons, Ne.symm hk, false_or]
      split <;> rfl

theorem length_put (key : κ) (value : α) (map : List (κ × α)) :
    (put key value map).length =
      if key ∈ map.map Prod.fst then map.length else map.length + 1 := by
  have hlength := congrArg List.length (map_fst_put key value map)
  rw [List.length_map] at hlength
  rw [hlength]
  split <;> simp

theorem nodup_put {key : κ} {value : α} {map : List (κ × α)} (h : (map.map Prod.fst).Nodup) :
    ((put key value map).map Prod.fst).Nodup := by
  rw [map_fst_put]
  split
  · exact h
  · next hk =>
    refine List.nodup_append.2 ⟨h, by simp, fun a ha b hb => ?_⟩
    rw [List.mem_singleton.1 hb]
    exact fun hab => hk (hab ▸ ha)

theorem nodup_ofPairs (pairs : List (κ × α)) : ((ofPairs pairs).map Prod.fst).Nodup := by
  have key : ∀ (pairs map : List (κ × α)), (map.map Prod.fst).Nodup →
      ((pairs.foldl (fun map p => put p.1 p.2 map) map).map Prod.fst).Nodup := by
    intro pairs
    induction pairs with
    | nil => exact fun _ h => h
    | cons p more ih => exact fun map h => ih _ (nodup_put h)
  exact key pairs [] List.nodup_nil

theorem mem_put {key : κ} {value : α} {map : List (κ × α)} {p : κ × α}
    (h : p ∈ put key value map) : p = (key, value) ∨ p ∈ map := by
  induction map with
  | nil => exact .inl (List.mem_singleton.1 h)
  | cons q more ih =>
    unfold put at h
    split at h
    · next hk =>
      subst hk
      exact (List.mem_cons.1 h).imp_right (List.mem_cons_of_mem q)
    · rcases List.mem_cons.1 h with rfl | h
      · exact .inr List.mem_cons_self
      · exact (ih h).imp_right (List.mem_cons_of_mem q)

theorem mem_foldl_put {pairs map : List (κ × α)} {p : κ × α}
    (h : p ∈ pairs.foldl (fun map p => put p.1 p.2 map) map) : p ∈ map ∨ p ∈ pairs := by
  induction pairs generalizing map with
  | nil => exact .inl h
  | cons q more ih =>
    rcases ih h with h | h
    · rcases mem_put h with rfl | h
      · exact .inr List.mem_cons_self
      · exact .inl h
    · exact .inr (List.mem_cons_of_mem q h)

theorem mem_of_mem_ofPairs {pairs : List (κ × α)} {p : κ × α} (h : p ∈ ofPairs pairs) :
    p ∈ pairs :=
  (mem_foldl_put h).resolve_left List.not_mem_nil

/-- The map that pairs make has just their keys. -/
theorem mem_map_fst_ofPairs {pairs : List (κ × α)} {k : κ} :
    k ∈ (ofPairs pairs).map Prod.fst ↔ k ∈ pairs.map Prod.fst := by
  have key : ∀ (pairs map : List (κ × α)),
      k ∈ (pairs.foldl (fun map p => put p.1 p.2 map) map).map Prod.fst ↔
        k ∈ map.map Prod.fst ∨ k ∈ pairs.map Prod.fst := by
    intro pairs
    induction pairs with
    | nil => simp
    | cons p more ih =>
      intro map
      have hput : k ∈ (put p.1 p.2 map).map Prod.fst ↔ k ∈ map.map Prod.fst ∨ k = p.1 := by
        rw [map_fst_put]
        split
        · next hp => exact ⟨.inl, fun h => h.elim id fun hk => hk ▸ hp⟩
        · simp
      rw [List.foldl_cons, ih, hput, List.map_cons, List.mem_cons, or_assoc]
  exact (key pairs []).trans (by simp)

theorem put_of_not_mem {key : κ} {value : α} {map : List (κ × α)} (h : key ∉ map.map Prod.fst) :
    put key value map = map ++ [(key, value)] := by
  induction map with
  | nil => rfl
  | cons p more ih =>
    rw [List.map_cons, List.mem_cons, not_or] at h
    rw [put, if_neg (Ne.symm h.1), ih h.2, List.cons_append]

/-- Pairs whose keys differ are a map as they stand. -/
theorem ofPairs_of_nodup {pairs : List (κ × α)} (h : (pairs.map Prod.fst).Nodup) :
    ofPairs pairs = pairs := by
  have key : ∀ (pairs map : List (κ × α)), ((map ++ pairs).map Prod.fst).Nodup →
      pairs.foldl (fun map p => put p.1 p.2 map) map = map ++ pairs := by
    intro pairs
    induction pairs with
    | nil => simp
    | cons p more ih =>
      intro map hnd
      have hp : p.1 ∉ map.map Prod.fst := by
        rw [List.map_append, List.map_cons] at hnd
        exact fun hp => (List.nodup_append.1 hnd).2.2 _ hp _ List.mem_cons_self rfl
      rw [List.foldl_cons, put_of_not_mem hp, ih _ (by simpa using hnd)]
      simp
  exact key pairs [] h

/-- Adds an element to the end of a list, unless it is there already. -/
def addNew [DecidableEq α] (a : α) (as : List α) : List α :=
  if a ∈ as then as else as ++ [a]

theorem addNew_of_mem [DecidableEq α] {a : α} {as : List α} (h : a ∈ as) : addNew a as = as :=
  if_pos h

theorem addNew_of_not_mem [DecidableEq α] {a : α} {as : List α} (h : a ∉ as) :
    addNew a as = as ++ [a] :=
  if_neg h

@[simp] theorem mem_addNew [DecidableEq α] {a b : α} {as : List α} :
    b ∈ addNew a as ↔ b ∈ as ∨ b = a := by
  by_cases h : a ∈ as
  · rw [addNew_of_mem h]
    exact ⟨Or.inl, fun hb => hb.elim id fun hab => hab ▸ h⟩
  · simp [addNew_of_not_mem h]

theorem foldl_addNew_append [DecidableEq α] (as acc : List α) :
    as.foldl (fun acc a => addNew a acc) acc =
      acc ++ (as.filter fun a => !acc.contains a).eraseDups := by
  induction as generalizing acc with
  | nil => simp
  | cons a more ih =>
    rw [List.foldl_cons, ih]
    by_cases h : a ∈ acc
    · simp [addNew_of_mem h, h]
    · rw [addNew_of_not_mem h, List.filter_cons_of_pos (by simpa using h), List.eraseDups_cons,
        List.filter_filter, List.append_assoc, List.singleton_append]
      congr 3
      refine List.filter_congr fun b _ => ?_
      by_cases hb : b = a <;> simp [hb]

/-- Adding elements one by one keeps the first of each. -/
theorem foldl_addNew [DecidableEq α] (as : List α) :
    as.foldl (fun acc a => addNew a acc) [] = as.eraseDups := by
  rw [foldl_addNew_append, List.nil_append, List.filter_eq_self.2 (by simp)]

@[simp] theorem mem_foldl_addNew [DecidableEq α] {a : α} {as acc : List α} :
    a ∈ as.foldl (fun acc a => addNew a acc) acc ↔ a ∈ acc ∨ a ∈ as := by
  by_cases h : a ∈ acc <;> simp [foldl_addNew_append, h]

/-- Among elements that were added one by one, the first match is that of all in their order. -/
theorem find?_foldl_addNew [DecidableEq α] (as acc : List α) (f : α → Bool) :
    (as.foldl (fun acc a => addNew a acc) acc).find? f = (acc ++ as).find? f := by
  induction as generalizing acc with
  | nil => rw [List.foldl_nil, List.append_nil]
  | cons a more ih =>
    rw [List.foldl_cons, ih]
    by_cases h : a ∈ acc
    -- if it matches, something that is there already matches before it
    · rw [addNew_of_mem h, List.find?_append, List.find?_append]
      cases hfind : acc.find? f with
      | some b => rfl
      | none => rw [List.find?_cons_of_neg (List.find?_eq_none.1 hfind a h)]
    · rw [addNew_of_not_mem h, List.append_assoc, List.singleton_append]

end ModuleBundler.Keyed
