import Mathlib.Data.List.Basic
import ModuleBundler.Path

/-! Absolute paths in their shortest form: a slash before each name, and nothing else. An absolute
path has such a form, and its components give it back. -/
namespace ModuleBundler

open ModuleBundler.Path (slash dot)

namespace Component

/-- Bytes that stand between slashes as a name. -/
structure IsName (bs : List UInt8) : Prop where
  no_slash : slash ∉ bs
  ofSegment?_eq : ofSegment? bs = some (.name bs)

theorem ofSegment?_cases {bs : List UInt8} {c : Component} (h : ofSegment? bs = some c) :
    c = .up ∧ bs = [dot, dot] ∨ c = .name bs := by
  unfold ofSegment? at h
  split at h
  · cases h
  · split at h
    · next hup => exact .inl ⟨(Option.some.inj h).symm, by simpa using hup⟩
    · exact .inr (Option.some.inj h).symm

theorem ofSegment?_of_length {bs : List UInt8} (h : 2 < bs.length) :
    ofSegment? bs = some (.name bs) := by
  have hnil : bs ≠ [] := by rintro rfl; cases h
  have hhere : bs ≠ [dot] := by rintro rfl; simp at h
  have hup : bs ≠ [dot, dot] := by rintro rfl; simp at h
  simp [ofSegment?, hnil, hhere, hup]

theorem isName_iff {bs : List UInt8} :
    IsName bs ↔ slash ∉ bs ∧ bs ≠ [] ∧ bs ≠ [dot] ∧ bs ≠ [dot, dot] := by
  constructor
  · rintro ⟨hslash, h⟩
    refine ⟨hslash, ?_, ?_, ?_⟩ <;> rintro rfl <;> cases h
  · rintro ⟨hslash, hnil, hhere, hup⟩
    exact ⟨hslash, by simp [ofSegment?, hnil, hhere, hup]⟩

theorem IsName.append {bs ending : List UInt8} (h : IsName bs) (hending : slash ∉ ending) :
    IsName (bs ++ ending) := by
  obtain ⟨hslash, hnil, hhere, hup⟩ := isName_iff.1 h
  obtain ⟨c, rest, rfl⟩ := List.exists_cons_of_ne_nil hnil
  refine isName_iff.2 ⟨?_, by simp, ?_, ?_⟩
  · rw [List.mem_append, not_or]
    exact ⟨hslash, hending⟩
  · intro heq
    obtain ⟨rfl, hrest⟩ := List.cons.inj heq
    exact hhere (by rw [(List.append_eq_nil_iff.1 hrest).1])
  · intro heq
    obtain ⟨rfl, hrest⟩ := List.cons.inj heq
    rcases List.append_eq_singleton_iff.1 hrest with ⟨rfl, -⟩ | ⟨rfl, -⟩
    · exact hhere rfl
    · exact hup rfl

end Component

open Component (IsName ofSegment? ofSegment?_cases isName_iff)

namespace Path

section Segments

theorem segmentsOf_append_slash {segment : List UInt8} (h : slash ∉ segment) (rest : List UInt8) :
    segmentsOf (segment ++ slash :: rest) = segment :: segmentsOf rest :=
  List.splitOn_append_cons_self_of_not_mem h rest

theorem segmentsOf_joinSegments {segments : List (List UInt8)} (hne : segments ≠ [])
    (h : ∀ s ∈ segments, slash ∉ s) : segmentsOf (joinSegments segments) = segments :=
  List.splitOn_intercalate slash h hne

theorem joinSegments_segmentsOf (bs : List UInt8) : joinSegments (segmentsOf bs) = bs :=
  List.intercalate_splitOn slash

theorem joinSegments_cons {segments : List (List UInt8)} (h : segments ≠ []) (s : List UInt8) :
    joinSegments (s :: segments) = s ++ slash :: joinSegments segments := by
  rw [joinSegments, List.intercalate_cons_of_ne_nil h]
  simp [joinSegments]

theorem joinSegments_concat {segments : List (List UInt8)} (h : segments ≠ []) (s : List UInt8) :
    joinSegments (segments ++ [s]) = joinSegments segments ++ slash :: s := by
  induction segments with
  | nil => exact absurd rfl h
  | cons first more ih =>
    cases more with
    | nil => simp [joinSegments]
    | cons second more =>
      have hmore : second :: more ≠ [] := List.cons_ne_nil second more
      rw [List.cons_append, joinSegments_cons (by simp), ih hmore, joinSegments_cons hmore,
        List.append_assoc, List.cons_append]

theorem no_slash_of_mem_segmentsOf {bs segment : List UInt8} (h : segment ∈ segmentsOf bs) :
    slash ∉ segment := by
  induction bs generalizing segment with
  | nil =>
    rw [List.mem_singleton.1 (show segment ∈ [[]] from h)]
    exact List.not_mem_nil
  | cons c rest ih =>
    rw [segmentsOf, List.splitOn_cons_eq_if_modifyHead, ← segmentsOf] at h
    split at h
    · rcases List.mem_cons.1 h with rfl | h
      · exact List.not_mem_nil
      · exact ih h
    · next hc =>
      cases hsegs : segmentsOf rest with
      | nil => simp [hsegs] at h
      | cons first more =>
        rw [hsegs] at h ih
        rcases List.mem_cons.1 h with rfl | h
        · rw [List.mem_cons, not_or]
          exact ⟨fun heq => hc (beq_iff_eq.2 heq.symm), ih List.mem_cons_self⟩
        · exact ih (List.mem_cons_of_mem _ h)

theorem getLast?_joinSegments {segments : List (List UInt8)}
    (h : ∀ s ∈ segments, s ≠ [] ∧ slash ∉ s) : (joinSegments segments).getLast? ≠ some slash := by
  intro hlast
  obtain ⟨bs, hbs⟩ := List.getLast?_eq_some_iff.1 hlast
  have hne : segments ≠ [] := by
    rintro rfl
    cases hlast
  -- a slash at the end would leave an empty segment behind it
  have hsegs : segments = segmentsOf bs ++ [[]] := by
    rw [← segmentsOf_joinSegments hne fun s hs => (h s hs).2, hbs]
    exact List.splitOn_append_cons_self bs []
  exact (h [] (hsegs ▸ List.mem_concat_self)).1 rfl

theorem joinSegments_ne_nil {segments : List (List UInt8)} (hne : segments ≠ [])
    (h : ∀ s ∈ segments, s ≠ [] ∧ slash ∉ s) : joinSegments segments ≠ [] := by
  intro hnil
  have hsegs := segmentsOf_joinSegments hne fun s hs => (h s hs).2
  rw [hnil] at hsegs
  exact (h [] (hsegs ▸ List.mem_singleton_self _)).1 rfl

end Segments

section Join

variable {base : Path} {segment : List UInt8}

theorem isAbsolute_iff {p : Path} : p.isAbsolute ↔ ∃ bs, p = ⟨slash :: bs⟩ := by
  obtain ⟨_ | ⟨c, bs⟩⟩ := p <;> simp [isAbsolute]

theorem isAbsolute_segment (h : slash ∉ segment) : (⟨segment⟩ : Path).isAbsolute = false := by
  rw [Bool.eq_false_iff]
  intro habs
  obtain ⟨bs, heq⟩ := isAbsolute_iff.1 habs
  rw [Path.mk.injEq] at heq
  exact h (heq ▸ List.mem_cons_self)

theorem join_of_slash (base : Path) (hslash : slash ∉ segment)
    (hbase : base.bytes = [] ∨ base.bytes.getLast? = some slash) :
    base.join ⟨segment⟩ = ⟨base.bytes ++ segment⟩ := by
  rw [join, if_neg (by simp [isAbsolute_segment hslash]), if_pos (by simpa using hbase)]

theorem join_of_not_slash (base : Path) (hslash : slash ∉ segment) (hne : base.bytes ≠ [])
    (hlast : base.bytes.getLast? ≠ some slash) :
    base.join ⟨segment⟩ = ⟨base.bytes ++ slash :: segment⟩ := by
  rw [join, if_neg (by simp [isAbsolute_segment hslash]), if_neg (by simp [hne, hlast])]

theorem isAbsolute_join (h : base.isAbsolute) (p : Path) : (base.join p).isAbsolute := by
  obtain ⟨bs, rfl⟩ := isAbsolute_iff.1 h
  unfold join
  split
  · assumption
  · split <;> exact isAbsolute_iff.2 ⟨_, rfl⟩

end Join

theorem components_slash (bs : List UInt8) :
    components ⟨slash :: bs⟩ = .root :: (segmentsOf bs).filterMap ofSegment? := by
  have h := segmentsOf_append_slash (List.not_mem_nil (a := slash)) bs
  rw [List.nil_append] at h
  rw [components, h]
  rfl

def ofNames (names : List (List UInt8)) : Path := ⟨slash :: joinSegments names⟩

theorem components_ofNames {names : List (List UInt8)} (h : ∀ n ∈ names, IsName n) :
    (ofNames names).components = .root :: names.map .name := by
  rw [ofNames, components_slash]
  by_cases hnil : names = []
  · subst hnil
    rfl
  · rw [segmentsOf_joinSegments hnil fun n hn => (h n hn).no_slash,
      List.filterMap_eq_map_iff_forall_eq_some.2 fun n hn => (h n hn).ofSegment?_eq]

theorem join_ofNames {names : List (List UInt8)} (h : ∀ n ∈ names, IsName n) {n : List UInt8}
    (hn : IsName n) : (ofNames names).join ⟨n⟩ = ofNames (names ++ [n]) := by
  by_cases hnil : names = []
  · subst hnil
    rw [join_of_slash (ofNames []) hn.no_slash (.inr rfl)]
    simp [ofNames, joinSegments]
  · have hsegs : ∀ s ∈ names, s ≠ [] ∧ slash ∉ s := fun s hs =>
      ⟨(isName_iff.1 (h s hs)).2.1, (h s hs).no_slash⟩
    have hlast : (ofNames names).bytes.getLast? ≠ some slash := by
      rw [ofNames, List.getLast?_cons_of_ne_nil (joinSegments_ne_nil hnil hsegs)]
      exact getLast?_joinSegments hsegs
    rw [join_of_not_slash (ofNames names) hn.no_slash (List.cons_ne_nil _ _) hlast]
    rw [ofNames, ofNames, joinSegments_concat hnil, List.cons_append]

theorem ofComponents_names {names : List (List UInt8)} (h : ∀ n ∈ names, IsName n) :
    ofComponents (.root :: names.map .name) = ofNames names := by
  have key : ∀ more done : List (List UInt8), (∀ n ∈ done ++ more, IsName n) →
      (more.map Component.name).foldl (fun p c => p.join ⟨c.bytes⟩) (ofNames done) =
        ofNames (done ++ more) := by
    intro more
    induction more with
    | nil => simp
    | cons n more ih =>
      intro done hnames
      have hdone : ∀ n ∈ done, IsName n := fun n hn => hnames n (List.mem_append_left _ hn)
      have hn : IsName n := hnames n (List.mem_append_right _ List.mem_cons_self)
      rw [List.map_cons, List.foldl_cons, Component.bytes, join_ofNames hdone hn,
        List.append_cons done n more]
      exact ih _ (by simpa using hnames)
  exact key names [] h

theorem ofComponents_segments {cs : List Component}
    (h : ∀ c ∈ cs, c.bytes ≠ [] ∧ slash ∉ c.bytes) :
    ofComponents cs = ⟨joinSegments (cs.map Component.bytes)⟩ := by
  have key : ∀ more done : List Component, (∀ c ∈ done ++ more, c.bytes ≠ [] ∧ slash ∉ c.bytes) →
      more.foldl (fun (p : Path) c => p.join ⟨c.bytes⟩)
          ⟨joinSegments (done.map Component.bytes)⟩ =
        ⟨joinSegments ((done ++ more).map Component.bytes)⟩ := by
    intro more
    induction more with
    | nil => simp
    | cons c more ih =>
      intro done hcs
      have hdone : ∀ s ∈ done.map Component.bytes, s ≠ [] ∧ slash ∉ s := by
        intro s hs
        obtain ⟨c, hc, rfl⟩ := List.mem_map.1 hs
        exact hcs c (List.mem_append_left _ hc)
      have hc := hcs c (List.mem_append_right _ List.mem_cons_self)
      have hjoin : (⟨joinSegments (done.map Component.bytes)⟩ : Path).join ⟨c.bytes⟩ =
          ⟨joinSegments ((done ++ [c]).map Component.bytes)⟩ := by
        rw [List.map_append, List.map_singleton]
        -- joining puts a slash between the two, unless nothing stands before
        by_cases hnil : done.map Component.bytes = []
        · rw [join_of_slash _ hc.2 (.inl (by rw [hnil]; rfl)), hnil]
          simp [joinSegments]
        · rw [join_of_not_slash ⟨joinSegments (done.map Component.bytes)⟩ hc.2
            (joinSegments_ne_nil hnil hdone) (getLast?_joinSegments hdone)]
          rw [joinSegments_concat hnil]
      rw [List.foldl_cons, hjoin, List.append_cons done c more]
      exact ih _ (by simpa using hcs)
  exact key cs [] h

end Path

end ModuleBundler
