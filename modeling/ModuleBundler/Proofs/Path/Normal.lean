import Mathlib.Data.List.TakeWhile
import ModuleBundler.Proofs.Path.Canonical
import ModuleBundler.Proofs.Text.Utf8
import ModuleBundler.Resolve

/-! The paths that a build meets. It starts from absolute paths that are normalized, so that they
are canonical, and puts endings behind them, which keeps their components those of canonical
paths. -/
namespace ModuleBundler

open Component (IsName ofSegment? ofSegment?_cases isName_iff)

namespace Path

def Canonical (p : Path) : Prop := ∃ names, (∀ n ∈ names, IsName n) ∧ p = ofNames names

/-- A path that has the components of a canonical one. -/
def Plain (p : Path) : Prop :=
  ∃ names : List (List UInt8), (∀ n ∈ names, IsName n) ∧ p.components = .root :: names.map .name

variable {p q : Path}

theorem Canonical.plain (h : p.Canonical) : p.Plain := by
  obtain ⟨names, hnames, rfl⟩ := h
  exact ⟨names, hnames, components_ofNames hnames⟩

theorem Canonical.isAbsolute (h : p.Canonical) : p.isAbsolute := by
  obtain ⟨names, -, rfl⟩ := h
  exact isAbsolute_iff.2 ⟨_, rfl⟩

theorem Canonical.eq_of_components_eq (hp : p.Canonical) (hq : q.Canonical)
    (h : p.components = q.components) : p = q := by
  obtain ⟨names, hnames, rfl⟩ := hp
  obtain ⟨names', hnames', rfl⟩ := hq
  rw [← ofComponents_names hnames, ← ofComponents_names hnames', ← components_ofNames hnames,
    ← components_ofNames hnames', h]

section Normalize

theorem foldl_normalStep {cs : List Component}
    (hcs : ∀ c ∈ cs, c = .up ∨ ∃ n, IsName n ∧ c = .name n) (kept : List (List UInt8))
    (hkept : ∀ n ∈ kept, IsName n) :
    ∃ kept' : List (List UInt8), (∀ n ∈ kept', IsName n) ∧
      cs.foldl normalStep (kept.map .name ++ [.root]) = kept'.map .name ++ [.root] := by
  induction cs generalizing kept with
  | nil => exact ⟨kept, hkept, rfl⟩
  | cons c more ih =>
    obtain ⟨hc, hmore⟩ := List.forall_mem_cons.1 hcs
    rw [List.foldl_cons]
    rcases hc with rfl | ⟨n, hn, rfl⟩
    · cases kept with
      | nil => exact ih hmore [] hkept
      | cons n rest => exact ih hmore rest (List.forall_mem_cons.1 hkept).2
    · exact ih hmore (n :: kept) (List.forall_mem_cons.2 ⟨hn, hkept⟩)

theorem normalComponents_of_isAbsolute (h : p.isAbsolute) :
    ∃ names : List (List UInt8), (∀ n ∈ names, IsName n) ∧
      normalComponents p.components = .root :: names.map .name := by
  obtain ⟨bs, rfl⟩ := isAbsolute_iff.1 h
  have hcs : ∀ c ∈ (segmentsOf bs).filterMap ofSegment?, c = .up ∨ ∃ n, IsName n ∧ c = .name n := by
    intro c hc
    obtain ⟨segment, hsegment, hof⟩ := List.mem_filterMap.1 hc
    rcases ofSegment?_cases hof with ⟨rfl, -⟩ | rfl
    · exact .inl rfl
    · exact .inr ⟨segment, ⟨no_slash_of_mem_segmentsOf hsegment, hof⟩, rfl⟩
  obtain ⟨kept, hkept, hfold⟩ := foldl_normalStep hcs [] (by simp)
  refine ⟨kept.reverse, fun n hn => hkept n (List.mem_reverse.1 hn), ?_⟩
  rw [components_slash, normalComponents, List.foldl_cons]
  show (((segmentsOf bs).filterMap ofSegment?).foldl normalStep [.root]).reverse = _
  rw [show [Component.root] = ([] : List (List UInt8)).map .name ++ [.root] from rfl, hfold]
  simp

theorem canonical_normalize (h : p.isAbsolute) : p.normalize.Canonical := by
  obtain ⟨names, hnames, hnormal⟩ := normalComponents_of_isAbsolute h
  refine ⟨names, hnames, ?_⟩
  rw [normalize, hnormal]
  exact ofComponents_names hnames

end Normalize

theorem isAbsolute_parent (h : p.isAbsolute) (hq : p.parent = some q) : q.isAbsolute := by
  unfold parent at hq
  split at hq
  · cases hq
  · rw [if_pos h] at hq
    split at hq
    · cases hq
    · rw [← Option.some.inj hq]
      exact isAbsolute_iff.2 ⟨_, rfl⟩

theorem components_of_parent (h : p.isAbsolute) (hparent : p.parent = none) :
    p.components = [.root] := by
  obtain ⟨bs, rfl⟩ := isAbsolute_iff.1 h
  have hsegments := segmentsOf_append_slash (List.not_mem_nil (a := slash)) bs
  rw [List.nil_append] at hsegments
  simp only [parent, hsegments, if_pos h] at hparent
  split at hparent
  next htrivial =>
    rw [dropTrivial, List.dropWhile_eq_nil_iff] at htrivial
    rw [components_slash, List.filterMap_eq_nil_iff.2]
    intro segment hmem
    simpa using htrivial segment (List.mem_reverse.2 hmem)
  next => cases hparent

end Path

namespace Resolver

open ModuleBundler.Path

variable {p q : Path} {ending : String}

theorem isAbsolute_withEnding (h : p.isAbsolute) (ending : String) :
    (withEnding p ending).isAbsolute := by
  obtain ⟨bs, rfl⟩ := isAbsolute_iff.1 h
  exact isAbsolute_iff.2 ⟨_, rfl⟩

theorem withEnding_concat (names : List (List UInt8)) (n : List UInt8) (ending : String) :
    withEnding (ofNames (names ++ [n])) ending =
      ofNames (names ++ [n ++ Utf8.encode ending.toList]) := by
  by_cases hnil : names = []
  · subst hnil
    simp [withEnding, ofNames, joinSegments]
  · simp [withEnding, ofNames, joinSegments_concat hnil]

theorem withEnding_empty (p : Path) : withEnding p "" = p := by
  simp [withEnding, Utf8.encode]

theorem slash_not_mem_encode (h : '/' ∉ ending.toList) : slash ∉ Utf8.encode ending.toList :=
  fun hmem => h (Utf8.mem_encode hmem (by decide))

theorem canonical_withEnding (hp : p.Canonical) (hslash : '/' ∉ ending.toList)
    (hup : ending ≠ "..") :
    (withEnding p ending).Canonical ∨ (withEnding p ending).components = p.components := by
  have hslash := slash_not_mem_encode hslash
  obtain ⟨names, hnames, rfl⟩ := hp
  rcases List.eq_nil_or_concat names with rfl | ⟨init, n, rfl⟩
  -- behind the root the ending is a name of its own, or a dot
  · by_cases hname : IsName (Utf8.encode ending.toList)
    · refine .inl ⟨[Utf8.encode ending.toList], by simpa using hname, ?_⟩
      simp [withEnding, ofNames, joinSegments]
    · rw [isName_iff] at hname
      by_cases hempty : Utf8.encode ending.toList = []
      · refine .inr ?_
        simp [withEnding, hempty]
      · have hdot : Utf8.encode ending.toList = [dot] := by
          by_contra hdot
          refine hname ⟨hslash, hempty, hdot, fun hdots => hup ?_⟩
          rw [← String.toList_inj]
          exact Utf8.encode_injective hdots
        refine .inr ?_
        simp only [withEnding, hdot]
        decide
  · rw [List.concat_eq_append] at hnames ⊢
    refine .inl ⟨init ++ [n ++ Utf8.encode ending.toList], ?_, withEnding_concat init n ending⟩
    intro m hm
    rcases List.mem_append.1 hm with hm | hm
    · exact hnames m (List.mem_append_left _ hm)
    · rw [List.mem_singleton.1 hm]
      exact (hnames n List.mem_concat_self).append hslash

theorem canonical_candidate {directory : Path} (h : directory.isAbsolute) (specifier : String) :
    (candidate specifier directory).Canonical :=
  canonical_normalize (isAbsolute_join h _)

end Resolver

end ModuleBundler
