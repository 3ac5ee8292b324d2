import Mathlib.Data.List.Nodup
import Mathlib.Data.String.Basic
import ModuleBundler.Keyed
import ModuleBundler.Proofs.Json.Range

/-! The settled form of a document: the members of each object stand in the order of their keys, and
of those with one key the last is kept. A settled document is its own settled form. -/
namespace ModuleBundler.Json

theorem induction {P : Json → Prop} (null : P null) (bool : ∀ b, P (bool b))
    (number : ∀ n, P (number n)) (string : ∀ s, P (string s))
    (array : ∀ items, (∀ v ∈ items, P v) → P (array items))
    (object : ∀ members : List (String × Json), (∀ m ∈ members, P m.2) → P (object members))
    (v : Json) : P v :=
  @Json.rec P (fun items => ∀ v ∈ items, P v) (fun members => ∀ m ∈ members, P m.2)
    (fun m => P m.2) null bool number string array object nofun
    (fun _ _ hv hmore => List.forall_mem_cons.2 ⟨hv, hmore⟩) nofun
    (fun _ _ hm hmore => List.forall_mem_cons.2 ⟨hm, hmore⟩) (fun _ _ h => h) v

section Members

variable {key : String} {value : Json} {members done : List (String × Json)}

theorem mem_insertMember {m : String × Json} (h : m ∈ insertMember key value members) :
    m = (key, value) ∨ m ∈ members := by
  induction members with
  | nil => exact .inl (List.mem_singleton.1 h)
  | cons n more ih =>
    unfold insertMember at h
    split at h
    · exact List.mem_cons.1 h
    · split at h
      · exact (List.mem_cons.1 h).imp_right (List.mem_cons_of_mem n)
      · rcases List.mem_cons.1 h with rfl | h
        · exact .inr List.mem_cons_self
        · exact (ih h).imp_right (List.mem_cons_of_mem n)

def Ordered (members : List (String × Json)) : Prop := members.Pairwise fun m n => m.1 < n.1

theorem ordered_insertMember (h : Ordered members) : Ordered (insertMember key value members) := by
  induction members with
  | nil => exact List.pairwise_singleton _ _
  | cons n more ih =>
    obtain ⟨hn, hmore⟩ := List.pairwise_cons.1 h
    unfold insertMember
    split
    · next hlt =>
      refine List.pairwise_cons.2 ⟨fun m hm => ?_, h⟩
      rcases List.mem_cons.1 hm with rfl | hm
      · exact hlt
      · exact hlt.trans (hn m hm)
    · next hlt =>
      split
      · next heq => exact List.pairwise_cons.2 ⟨fun m hm => heq ▸ hn m hm, hmore⟩
      · next hne =>
        refine List.pairwise_cons.2 ⟨fun m hm => ?_, ih hmore⟩
        rcases mem_insertMember hm with rfl | hm
        · exact lt_of_le_of_ne (not_lt.1 hlt) (Ne.symm hne)
        · exact hn m hm

theorem ordered_settledMembers (h : Ordered done) : Ordered (settledMembers members done) := by
  induction members generalizing done with
  | nil => exact h
  | cons m more ih => exact ih (ordered_insertMember h)

theorem mem_settledMembers {m : String × Json} (h : m ∈ settledMembers members done) :
    m ∈ done ∨ ∃ n ∈ members, m = (n.1, n.2.settled) := by
  induction members generalizing done with
  | nil => exact .inl h
  | cons n more ih =>
    rcases ih h with h | ⟨n', hn', rfl⟩
    · rcases mem_insertMember h with rfl | h
      · exact .inr ⟨n, List.mem_cons_self, rfl⟩
      · exact .inl h
    · exact .inr ⟨n', List.mem_cons_of_mem n hn', rfl⟩

theorem get?_insertMember (k : String) :
    Keyed.get? k (insertMember key value members) =
      if k = key then some value else Keyed.get? k members := by
  induction members with
  | nil => simp [insertMember, Keyed.get?, eq_comm]
  | cons n more ih =>
    unfold insertMember
    split
    · simp [Keyed.get?, eq_comm]
    · split
      · next heq =>
        by_cases hk : k = key
        · simp [Keyed.get?, hk]
        · simp [Keyed.get?, hk, Ne.symm hk, ← heq]
      · next hne =>
        by_cases hk : n.1 = k
        · have hkey : k ≠ key := fun h => hne (h.symm.trans hk.symm)
          simp [Keyed.get?, hk, hkey]
        · simp [Keyed.get?, hk, ih]

theorem get?_settledMembers (k : String) (map : List (String × Json))
    (h : ∀ k, Keyed.get? k done = (Keyed.get? k map).map settled) :
    Keyed.get? k (settledMembers members done) =
      (Keyed.get? k (members.foldl (fun map m => Keyed.put m.1 m.2 map) map)).map settled := by
  induction members generalizing done map with
  | nil => exact h k
  | cons m more ih =>
    refine ih _ fun k => ?_
    rw [get?_insertMember, Keyed.get?_put, h k]
    split <;> rfl

theorem insertMember_append (h : ∀ m ∈ members, m.1 < key) :
    insertMember key value members = members ++ [(key, value)] := by
  induction members with
  | nil => rfl
  | cons n more ih =>
    obtain ⟨hn, hmore⟩ := List.forall_mem_cons.1 h
    rw [insertMember, if_neg hn.not_gt, if_neg hn.ne', ih hmore, List.cons_append]

theorem settledMembers_of_ordered (hordered : Ordered (done ++ members))
    (hsettled : ∀ m ∈ members, m.2.settled = m.2) :
    settledMembers members done = done ++ members := by
  induction members generalizing done with
  | nil => rw [settledMembers, List.append_nil]
  | cons m more ih =>
    obtain ⟨hm, hmore⟩ := List.forall_mem_cons.1 hsettled
    have hlt : ∀ n ∈ done, n.1 < m.1 := fun n hn =>
      (List.pairwise_append.1 hordered).2.2 n hn m List.mem_cons_self
    rw [settledMembers, hm, insertMember_append hlt, ih _ hmore]
    · simp
    · simpa using hordered

end Members

theorem settledItems_eq (items : List Json) : settledItems items = items.map settled := by
  induction items with
  | nil => rfl
  | cons v more ih => rw [settledItems, ih, List.map_cons]

theorem settled_settled (v : Json) : v.settled.settled = v.settled := by
  induction v using induction with
  | null | bool b | number n | string s => rfl
  | array items ih =>
    rw [settled, settled, settledItems_eq, settledItems_eq, List.map_map]
    exact congrArg array (List.map_congr_left fun v hv => ih v hv)
  | object members ih =>
    rw [settled, settled, settledMembers_of_ordered, List.nil_append]
    · exact ordered_settledMembers List.Pairwise.nil
    · intro m hm
      rcases mem_settledMembers hm with hm | ⟨n, hn, rfl⟩
      · cases hm
      · exact ih n hn

theorem settled_of_item {items : List Json} (h : (array items).settled = array items) :
    ∀ v ∈ items, v.settled = v := by
  intro v hv
  rw [settled, settledItems_eq, Json.array.injEq] at h
  rw [← h] at hv
  obtain ⟨w, -, rfl⟩ := List.mem_map.1 hv
  exact settled_settled w

theorem settled_of_member {members : List (String × Json)}
    (h : (object members).settled = object members) :
    Ordered members ∧ ∀ m ∈ members, m.2.settled = m.2 := by
  rw [settled, Json.object.injEq] at h
  refine ⟨h ▸ ordered_settledMembers .nil, fun m hm => ?_⟩
  rw [← h] at hm
  rcases mem_settledMembers hm with hm | ⟨n, -, rfl⟩
  · cases hm
  · exact settled_settled n.2

theorem Within.settled {P : JsonNumber → Prop} {levels : Nat} {v : Json} (h : Within P levels v) :
    Within P levels v.settled := by
  induction h with
  | null levels => exact .null levels
  | bool levels b => exact .bool levels b
  | number levels hn => exact .number levels hn
  | string levels s => exact .string levels s
  | array hlevels _ ih =>
    rw [Json.settled, settledItems_eq]
    refine .array hlevels fun w hw => ?_
    obtain ⟨v, hv, rfl⟩ := List.mem_map.1 hw
    exact ih v hv
  | object hlevels _ ih =>
    rw [Json.settled]
    refine .object hlevels fun m hm => ?_
    rcases mem_settledMembers hm with hm | ⟨n, hn, rfl⟩
    · cases hm
    · exact ih n hn

/-- Two documents that say the same: lists of the same items, and objects with the same keys and,
for each key, the same last value. -/
inductive Same : Json → Json → Prop
  | null : Same .null .null
  | bool (b : Bool) : Same (.bool b) (.bool b)
  | number (n : JsonNumber) : Same (.number n) (.number n)
  | string (s : String) : Same (.string s) (.string s)
  | array {items items' : List Json} (hlength : items.length = items'.length)
    (hitems : ∀ p ∈ items.zip items', Same p.1 p.2) : Same (.array items) (.array items')
  | object {members members' : List (String × Json)}
    (hkeys : ∀ k, k ∈ members.map Prod.fst ↔ k ∈ members'.map Prod.fst)
    (hmembers : ∀ k v w, Keyed.get? k (Keyed.ofPairs members) = some v →
      Keyed.get? k (Keyed.ofPairs members') = some w → Same v w) :
    Same (.object members) (.object members')

section Same

variable {members members' : List (String × Json)}

theorem Ordered.nodup (h : Ordered members) : (members.map Prod.fst).Nodup :=
  List.pairwise_map.2 (h.imp fun hlt => hlt.ne)

theorem Ordered.mem_iff (h : Ordered members) {k : String} {v : Json} :
    (k, v) ∈ members ↔ Keyed.get? k members = some v :=
  ⟨Keyed.get?_of_mem h.nodup, Keyed.mem_of_get?⟩

theorem Ordered.ext (h : Ordered members) (h' : Ordered members')
    (hget : ∀ k, Keyed.get? k members = Keyed.get? k members') : members = members' := by
  have hperm : members.Perm members' := by
    refine (List.perm_ext_iff_of_nodup (List.Nodup.of_map _ h.nodup)
      (List.Nodup.of_map _ h'.nodup)).2 fun ⟨k, v⟩ => ?_
    rw [h.mem_iff, h'.mem_iff, hget]
  exact hperm.eq_of_pairwise (fun m n _ _ hlt hgt => absurd hgt hlt.not_gt) h h'

theorem settledMembers_eq_iff :
    settledMembers members [] = settledMembers members' [] ↔
      ∀ k, (Keyed.get? k (Keyed.ofPairs members)).map settled =
        (Keyed.get? k (Keyed.ofPairs members')).map settled := by
  have hget (ms : List (String × Json)) (k : String) :
      Keyed.get? k (settledMembers ms []) = (Keyed.get? k (Keyed.ofPairs ms)).map settled :=
    get?_settledMembers k [] fun _ => rfl
  refine ⟨fun h k => by rw [← hget, ← hget, h], fun h => ?_⟩
  refine Ordered.ext (ordered_settledMembers .nil) (ordered_settledMembers .nil) fun k => ?_
  rw [hget, hget, h]

theorem same_of_settled {v w : Json} (h : v.settled = w.settled) : Same v w := by
  induction v using Json.induction generalizing w with
  | null =>
    cases w <;> simp only [settled, reduceCtorEq] at h
    exact .null
  | bool b =>
    cases w <;> simp only [settled, reduceCtorEq, Json.bool.injEq] at h
    exact h ▸ .bool b
  | number n =>
    cases w <;> simp only [settled, reduceCtorEq, Json.number.injEq] at h
    exact h ▸ .number n
  | string s =>
    cases w <;> simp only [settled, reduceCtorEq, Json.string.injEq] at h
    exact h ▸ .string s
  | array items ih =>
    cases w <;> simp only [settled, settledItems_eq, reduceCtorEq, Json.array.injEq] at h
    next items' =>
    refine .array (by simpa using congrArg List.length h) fun p hp => ?_
    refine ih p.1 (List.of_mem_zip hp).1 ?_
    obtain ⟨i, hi, rfl⟩ := List.mem_iff_getElem.1 hp
    rw [List.length_zip, Nat.lt_min] at hi
    simpa [hi.1, hi.2] using congrArg (·[i]?) h
  | object members ih =>
    cases w <;> simp only [settled, reduceCtorEq, Json.object.injEq, settledMembers_eq_iff] at h
    next members' =>
    -- a key counts with its last value, in the one document as in the other
    refine .object (fun k => ?_) fun k v w hv hw => ?_
    · rw [← Keyed.mem_map_fst_ofPairs, ← Keyed.get?_isSome, ← Option.isSome_map (f := settled), h k,
        Option.isSome_map, Keyed.get?_isSome, Keyed.mem_map_fst_ofPairs]
    · refine ih (k, v) (Keyed.mem_of_mem_ofPairs (Keyed.mem_of_get? hv)) ?_
      simpa [hv, hw] using h k

/-- Documents say the same just if they have one settled form. -/
theorem same_iff_settled {v w : Json} : Same v w ↔ v.settled = w.settled := by
  constructor
  · intro h
    induction h with
    | null | bool b | number n | string s => rfl
    | @array items items' hlength _ ih =>
      rw [settled, settled, settledItems_eq, settledItems_eq]
      refine congrArg Json.array (List.ext_getElem (by simpa using hlength) fun i hi hi' => ?_)
      rw [List.getElem_map, List.getElem_map]
      rw [List.length_map] at hi hi'
      exact ih (items[i], items'[i]) (List.mem_iff_getElem.2 ⟨i, by simp; omega, List.getElem_zip⟩)
    | @object members members' hkeys _ ih =>
      rw [settled, settled, settledMembers_eq_iff.2 fun k => ?_]
      have hsome : (Keyed.get? k (Keyed.ofPairs members)).isSome =
          (Keyed.get? k (Keyed.ofPairs members')).isSome := by
        rw [Bool.eq_iff_iff, Keyed.get?_isSome, Keyed.get?_isSome, Keyed.mem_map_fst_ofPairs,
          Keyed.mem_map_fst_ofPairs, hkeys]
      cases hv : Keyed.get? k (Keyed.ofPairs members) with
      | none =>
        rw [hv] at hsome
        rw [Option.isNone_iff_eq_none.1 (Option.isSome_eq_false_iff.1 hsome.symm)]
      | some v =>
        rw [hv] at hsome
        obtain ⟨w, hw⟩ := Option.isSome_iff_exists.1 hsome.symm
        rw [hw, Option.map_some, Option.map_some, ih k v w hv hw]
  · exact same_of_settled

end Same

end ModuleBundler.Json
