import Mathlib.Data.List.Induction
import ModuleBundler.Proofs.Path.Normal
import ModuleBundler.Proofs.Path.Place

/-! Normalizing a directory before a path is joined to it. Normalizing works on a stack, and a stack
that it leaves comes about again from its own components; so what is joined meets the same stack
either way, and the joined path is normalized alike. -/
namespace ModuleBundler.Path

open Component (IsName ofSegment? ofSegment?_cases isName_iff)

variable {base p q : Path} {xs ys : List Component}

section Stack

theorem normalStep_cases (kept : List Component) (c : Component) :
    normalStep kept c = c :: kept ∨ normalStep kept c = kept ∨
      ∃ n, kept = .name n :: normalStep kept c := by
  cases c with
  | root => exact .inl rfl
  | here => exact .inr (.inl rfl)
  | name n => exact .inl rfl
  | up =>
    cases kept with
    | nil => exact .inl rfl
    | cons top rest =>
      cases top with
      | root => exact .inr (.inl rfl)
      | here => exact .inl rfl
      | up => exact .inl rfl
      | name n => exact .inr (.inr ⟨n, rfl⟩)

theorem foldl_normalStep_reverse (cs : List Component) :
    (cs.foldl normalStep []).reverse.foldl normalStep [] = cs.foldl normalStep [] := by
  induction cs using List.reverseRecOn with
  | nil => rfl
  | append_singleton cs c ih =>
    rw [List.foldl_append, List.foldl_cons, List.foldl_nil]
    generalize cs.foldl normalStep [] = kept at ih ⊢
    obtain hput | hleft | ⟨n, htaken⟩ := normalStep_cases kept c
    · rw [hput, List.reverse_cons, List.foldl_append, ih]
      exact hput
    · rw [hleft]
      exact ih
    -- what lies below a name on such a stack is such a stack
    · rw [htaken, List.reverse_cons, List.foldl_append] at ih
      exact (List.cons.inj ih).2

theorem normalComponents_append (xs ys : List Component) :
    normalComponents (normalComponents xs ++ ys) = normalComponents (xs ++ ys) := by
  unfold normalComponents
  rw [List.foldl_append, foldl_normalStep_reverse, ← List.foldl_append]

theorem normalComponents_normalComponents (cs : List Component) :
    normalComponents (normalComponents cs) = normalComponents cs := by
  simpa using normalComponents_append cs []

theorem normalComponents_append_congr (h : normalComponents xs = normalComponents ys)
    (cs : List Component) : normalComponents (xs ++ cs) = normalComponents (ys ++ cs) := by
  rw [← normalComponents_append xs, h, normalComponents_append]

theorem mem_normalComponents {c : Component} (h : c ∈ normalComponents xs) : c ∈ xs := by
  rw [normalComponents, List.mem_reverse] at h
  induction xs using List.reverseRecOn with
  | nil => cases h
  | append_singleton cs d ih =>
    rw [List.foldl_append, List.foldl_cons, List.foldl_nil] at h
    obtain hput | hleft | ⟨n, htaken⟩ := normalStep_cases (cs.foldl normalStep []) d
    · rw [hput] at h
      rcases List.mem_cons.1 h with rfl | h
      · exact List.mem_concat_self
      · exact List.mem_append_left _ (ih h)
    · exact List.mem_append_left _ (ih (hleft ▸ h))
    · exact List.mem_append_left _ (ih (htaken ▸ List.mem_cons_of_mem _ h))

end Stack

section Join

def start (p : Path) : List Component := if p.isAbsolute then [.root] else []

theorem normalComponents_components (p : Path) :
    normalComponents p.components = normalComponents (p.start ++ p.parts) := by
  by_cases h : p.isAbsolute = true
  · rw [components_of_isAbsolute h, start, if_pos h]
    rfl
  · rw [start, if_neg h, List.nil_append, parts, components]
    cases segmentsOf p.bytes with
    | nil => rfl
    | cons first more =>
      by_cases hfirst : first = [dot]
      -- a dot in front counts for nothing
      · subst hfirst
        simp only [if_neg h]
        rfl
      · simp only [if_neg h, beq_iff_eq, if_neg hfirst, List.filterMap_cons]
        cases ofSegment? first <;> rfl

theorem isAbsolute_join_eq (base : Path) (hp : p.isAbsolute = false) :
    (base.join p).isAbsolute = base.isAbsolute := by
  rw [join, if_neg (by simp [hp])]
  obtain ⟨_ | ⟨c, cs⟩⟩ := base
  · exact hp
  · split <;> rfl

theorem normalComponents_join (base : Path) (hp : p.isAbsolute = false) :
    normalComponents (base.join p).components = normalComponents (base.components ++ p.parts) := by
  have hbase := normalComponents_append_congr (normalComponents_components base) p.parts
  rw [hbase, normalComponents_components, parts_join base hp, start, isAbsolute_join_eq base hp,
    ← start, List.append_assoc]

end Join

section Normalize

theorem mem_parts {c : Component} (h : c ∈ p.parts) : c = .up ∨ ∃ n, IsName n ∧ c = .name n := by
  obtain ⟨segment, hsegment, hof⟩ := List.mem_filterMap.1 h
  rcases ofSegment?_cases hof with ⟨rfl, -⟩ | rfl
  · exact .inl rfl
  · exact .inr ⟨segment, ⟨no_slash_of_mem_segmentsOf hsegment, hof⟩, rfl⟩

theorem Tidy.components_eq (h : p.Tidy) : p.components = p.parts := by
  have hrelative := h.isAbsolute
  unfold Tidy at h
  unfold components parts
  cases hsegments : segmentsOf p.bytes with
  | nil => rfl
  | cons first more =>
    have hfirst : first ≠ [dot] := by
      rintro rfl
      rw [hsegments] at h
      cases h [dot] List.mem_cons_self
    simp only [hrelative, Bool.false_eq_true, if_false, beq_iff_eq, if_neg hfirst,
      List.filterMap_cons]
    cases ofSegment? first <;> rfl

section OfComponents

variable {cs : List Component} (hcs : ∀ c ∈ cs, c = .up ∨ ∃ n, IsName n ∧ c = .name n)

include hcs

theorem tidy_ofComponents (hne : cs ≠ []) :
    (ofComponents cs).Tidy ∧ (ofComponents cs).parts = cs := by
  have hproper : ∀ c ∈ cs, c.bytes ≠ [] ∧ slash ∉ c.bytes ∧ ofSegment? c.bytes = some c := by
    intro c hc
    rcases hcs c hc with rfl | ⟨n, hn, rfl⟩
    · decide
    · exact ⟨(isName_iff.1 hn).2.1, hn.no_slash, hn.ofSegment?_eq⟩
  have hsegments : segmentsOf (ofComponents cs).bytes = cs.map Component.bytes := by
    rw [ofComponents_segments fun c hc => ⟨(hproper c hc).1, (hproper c hc).2.1⟩]
    refine segmentsOf_joinSegments (by simpa using hne) fun s hs => ?_
    obtain ⟨c, hc, rfl⟩ := List.mem_map.1 hs
    exact (hproper c hc).2.1
  refine ⟨fun s hs => ?_, ?_⟩
  · rw [hsegments] at hs
    obtain ⟨c, hc, rfl⟩ := List.mem_map.1 hs
    rw [(hproper c hc).2.2]
    rfl
  · rw [parts, hsegments, List.filterMap_map]
    refine (List.filterMap_congr fun c hc => (hproper c hc).2.2).trans ?_
    exact List.filterMap_some

theorem parts_ofComponents : (ofComponents cs).parts = cs := by
  rcases eq_or_ne cs [] with rfl | hne
  · rfl
  · exact (tidy_ofComponents hcs hne).2

theorem isAbsolute_ofComponents : (ofComponents cs).isAbsolute = false := by
  rcases eq_or_ne cs [] with rfl | hne
  · rfl
  · exact (tidy_ofComponents hcs hne).1.isAbsolute

theorem components_ofComponents : (ofComponents cs).components = cs := by
  rcases eq_or_ne cs [] with rfl | hne
  · rfl
  · obtain ⟨htidy, hparts⟩ := tidy_ofComponents hcs hne
    exact htidy.components_eq.trans hparts

end OfComponents

theorem components_normalize (p : Path) (h : normalComponents p.components ≠ []) :
    p.normalize.components = normalComponents p.components := by
  have hnormal : p.normalize = ofComponents (normalComponents p.components) := by
    unfold normalize
    split
    · contradiction
    · rfl
  rw [hnormal]
  by_cases habsolute : p.isAbsolute = true
  · obtain ⟨names, hnames, heq⟩ := normalComponents_of_isAbsolute habsolute
    rw [heq, ofComponents_names hnames, components_ofNames hnames]
  · refine components_ofComponents fun c hc => ?_
    rw [normalComponents_components, start, if_neg habsolute] at hc
    exact mem_parts (mem_normalComponents hc)

theorem normalComponents_normalize (p : Path) :
    normalComponents p.normalize.components = normalComponents p.components := by
  by_cases h : normalComponents p.components = []
  · rw [normalize, h]
    rfl
  · rw [components_normalize p h, normalComponents_normalComponents]

theorem normalize_congr (h : normalComponents p.components = normalComponents q.components) :
    p.normalize = q.normalize := by
  rw [normalize, normalize, h]

theorem normalize_join_normalize (base p : Path) :
    (base.normalize.join p).normalize = (base.join p).normalize := by
  by_cases hp : p.isAbsolute = true
  · rw [join, if_pos hp, join, if_pos hp]
  · refine normalize_congr ?_
    rw [Bool.not_eq_true] at hp
    rw [normalComponents_join _ hp, normalComponents_join _ hp]
    exact normalComponents_append_congr (normalComponents_normalize base) p.parts

end Normalize

end ModuleBundler.Path
