import ModuleBundler.Proofs.Path.Way

/-! When two files get one name. The way from the root of a build to a file tells which file it is,
and leads back to it, so files can only get one name by what is shown of the way: slashes for its
backslashes, and one sign for whatever is no text. -/
namespace ModuleBundler.Path

open Component (IsName isName_iff ofSegment?_cases)

variable {base p q : Path}

section Clear

/-- Bytes that are a text without a backslash, so that the name of a module keeps them. -/
def Clear (bytes : List UInt8) : Prop := ∃ cs, Utf8.encode cs = bytes ∧ '\\' ∉ cs

instance (bytes : List UInt8) : Decidable (Clear bytes) :=
  decidable_of_iff (∃ cs ∈ Utf8.chars? bytes, '\\' ∉ cs)
    (exists_congr fun _ => and_congr_left' Utf8.chars?_eq_some)

theorem clear_append_slash {bytes rest : List UInt8} :
    Clear (bytes ++ slash :: rest) ↔ Clear bytes ∧ Clear rest := by
  constructor
  · rintro ⟨cs, hcs, hclean⟩
    obtain ⟨before, after, rfl, rfl, rfl⟩ := Utf8.encode_eq_append_cons hcs (by decide)
    simp only [List.mem_append, List.mem_cons, not_or] at hclean
    exact ⟨⟨before, rfl, hclean.1⟩, ⟨after, rfl, hclean.2.2⟩⟩
  · rintro ⟨⟨before, rfl, hbefore⟩, ⟨after, rfl, hafter⟩⟩
    exact ⟨before ++ '/' :: after, Utf8.encode_append before ('/' :: after),
      by simp [hbefore, hafter]⟩

theorem clear_joinSegments {segments : List (List UInt8)} :
    Clear (joinSegments segments) ↔ ∀ s ∈ segments, Clear s := by
  induction segments with
  | nil => exact ⟨fun _ => by simp, fun _ => ⟨[], rfl, List.not_mem_nil⟩⟩
  | cons first more ih =>
    by_cases hmore : more = []
    · subst hmore
      simp [joinSegments]
    · rw [joinSegments_cons hmore, clear_append_slash, ih, List.forall_mem_cons]

theorem clear_iff {bytes : List UInt8} : Clear bytes ↔ ∀ s ∈ segmentsOf bytes, Clear s := by
  rw [← clear_joinSegments, joinSegments_segmentsOf]

theorem clear_slashed (p : Path) : Clear (ofString p.slashed).bytes := by
  refine ⟨p.slashed.toList, rfl, ?_⟩
  rw [slashed, String.toList_ofList]
  intro hmem
  obtain ⟨c, -, hc⟩ := List.mem_map.1 hmem
  split at hc
  · cases hc
  · next hne => exact hne (beq_iff_eq.2 hc)

theorem ofString_slashed (h : Clear p.bytes) : ofString p.slashed = p := by
  obtain ⟨cs, hcs, hclean⟩ := h
  have hid : cs.map (fun c => if c == '\\' then '/' else c) = cs := by
    refine (List.map_congr_left fun c hc => if_neg fun heq => hclean ?_).trans (List.map_id _)
    exact beq_iff_eq.1 heq ▸ hc
  rw [ofString, slashed, ← hcs, Utf8.shown_encode, hid, String.toList_ofList, hcs]

theorem clear_of_name_mem (hp : p.isAbsolute) (h : Clear p.bytes) {n : List UInt8}
    (hn : .name n ∈ p.components) : Clear n := by
  obtain ⟨bs, rfl⟩ := isAbsolute_iff.1 hp
  rw [components_slash] at hn
  obtain ⟨segment, hsegment, hof⟩ :=
    List.mem_filterMap.1 ((List.mem_cons.1 hn).resolve_left (by simp))
  obtain rfl : n = segment := by
    rcases ofSegment?_cases hof with ⟨hup, -⟩ | heq
    · cases hup
    · exact Component.name.inj heq
  exact clear_iff.1 (clear_append_slash.1 (show Clear ([] ++ slash :: bs) from h)).2 n hsegment

theorem clear_of_name_mem_parts (h : Clear p.bytes) {n : List UInt8} (hn : .name n ∈ p.parts) :
    Clear n := by
  obtain ⟨segment, hsegment, hof⟩ := List.mem_filterMap.1 hn
  rcases ofSegment?_cases hof with ⟨hup, -⟩ | heq
  · cases hup
  · exact Component.name.inj heq ▸ clear_iff.1 h segment hsegment

end Clear

section Names

theorem isAbsolute_of_root_mem (h : .root ∈ p.components) : p.isAbsolute := by
  have hof : ∀ segment, Component.ofSegment? segment ≠ some .root := by
    intro segment heq
    rcases Component.ofSegment?_cases heq with ⟨heq, -⟩ | heq <;> cases heq
  have hrest : ∀ segments : List (List UInt8), .root ∉ segments.filterMap Component.ofSegment? := by
    intro segments hmem
    obtain ⟨segment, -, heq⟩ := List.mem_filterMap.1 hmem
    exact hof segment heq
  by_contra habs
  unfold components at h
  split at h
  · cases h
  · next first more _ =>
    rw [if_neg habs] at h
    split at h
    · exact hrest more ((List.mem_cons.1 h).resolve_left (by simp))
    · rcases List.mem_append.1 h with h | h
      · exact hof first (Option.mem_toList.1 h)
      · exact hrest more h

theorem Plain.isAbsolute (h : p.Plain) : p.isAbsolute := by
  obtain ⟨names, -, heq⟩ := h
  exact isAbsolute_of_root_mem (heq ▸ List.mem_cons_self)

theorem Way.clear_relative {shared up down : List (List UInt8)}
    (h : Way base p shared up down) :
    Clear (relative base p).bytes ↔ ∀ n ∈ down, Clear n := by
  have hproper : ∀ c ∈ List.replicate up.length Component.up ++ down.map .name,
      c.bytes ≠ [] ∧ slash ∉ c.bytes := by
    intro c hc
    rcases h.steps c hc with rfl | ⟨n, hn, rfl⟩
    · decide
    · exact ⟨(isName_iff.1 hn).2.1, hn.no_slash⟩
  rw [h.relative_eq, ofComponents_segments hproper, clear_joinSegments, List.map_append,
    List.forall_mem_append]
  simp only [List.map_replicate, List.map_map, List.mem_map, Function.comp_apply]
  refine ⟨fun hclear n hn => hclear.2 n ⟨n, hn, rfl⟩, fun hclear => ⟨fun s hs => ?_, ?_⟩⟩
  · rw [List.eq_of_mem_replicate hs]
    exact ⟨['.', '.'], rfl, by decide⟩
  · rintro s ⟨n, hn, rfl⟩
    exact hclear n hn

theorem clear_relative (hbase : base.Plain) (hp : p.Plain) (h : Clear p.bytes) :
    Clear (relative base p).bytes := by
  obtain ⟨shared, up, down, hway⟩ := exists_way hbase hp
  refine hway.clear_relative.2 fun n hn => clear_of_name_mem hp.isAbsolute h ?_
  rw [hway.target_eq]
  exact List.mem_cons_of_mem _ (List.mem_map_of_mem (List.mem_append_right _ hn))

theorem moduleId_injective (hbase : base.Plain) (hp : p.Plain) (hq : q.Plain)
    (hpc : Clear p.bytes) (hqc : Clear q.bytes) (h : moduleId base p = moduleId base q) :
    p.components = q.components := by
  have hslashed : (relative base p).slashed = (relative base q).slashed :=
    String.toList_injective (by simpa [moduleId] using congrArg String.toList h)
  have hrelative := congrArg ofString hslashed
  rw [ofString_slashed (clear_relative hbase hp hpc),
    ofString_slashed (clear_relative hbase hq hqc)] at hrelative
  exact relative_injective hbase hq hp (congrArg components hrelative)

theorem moduleId_congr (base : Path) (h : p.components = q.components) :
    moduleId base p = moduleId base q := by
  rw [moduleId, moduleId, relative, relative, h]

theorem ofString_moduleId (base p : Path) :
    ofString (moduleId base p) =
      ⟨[dot] ++ slash :: (ofString (relative base p).slashed).bytes⟩ := by
  have hlead : Utf8.encode "./".toList = [dot, slash] := by decide
  rw [ofString, moduleId, String.toList_append, Utf8.encode_append, hlead]
  simp [ofString]

theorem parts_moduleId (base p : Path) :
    (ofString (moduleId base p)).parts = (ofString (relative base p).slashed).parts := by
  have hdot : parts ⟨[dot]⟩ = [] := by decide
  rw [ofString_moduleId, parts_append, hdot, List.nil_append]

theorem isAbsolute_moduleId (base p : Path) : (ofString (moduleId base p)).isAbsolute = false := by
  rw [ofString_moduleId]
  rfl

theorem normalize_join_moduleId (hbase : base.Plain) (hp : p.Plain)
    (h : Clear (relative base p).bytes) :
    (base.join (.ofString (moduleId base p))).normalize = p.normalize := by
  obtain ⟨shared, up, down, hway⟩ := exists_way hbase hp
  refine normalize_join_way hbase hp (isAbsolute_moduleId base p) ?_
  rw [parts_moduleId, ofString_slashed h, hway.parts_relative]

theorem foldl_normalStep_suffix (cs kept : List Component) :
    ∃ put left, cs.foldl normalStep kept = put ++ left ∧ left <:+ kept ∧ put ⊆ cs := by
  induction cs using List.reverseRecOn with
  | nil => exact ⟨[], kept, rfl, List.suffix_refl kept, List.nil_subset _⟩
  | append_singleton cs c ih =>
    obtain ⟨put, left, hfold, hleft, hput⟩ := ih
    rw [List.foldl_append, List.foldl_cons, List.foldl_nil, hfold]
    have hmore : put ⊆ cs ++ [c] := List.Subset.trans hput (List.subset_append_left cs [c])
    obtain h | h | ⟨n, h⟩ := normalStep_cases (put ++ left) c
    · exact ⟨c :: put, left, h, hleft, List.cons_subset.2 ⟨by simp, hmore⟩⟩
    · exact ⟨put, left, h, hleft, hmore⟩
    · cases put with
      | nil =>
        have hbelow : normalStep ([] ++ left) c <:+ left := ⟨[.name n], h.symm⟩
        exact ⟨[], _, rfl, hbelow.trans hleft, List.nil_subset _⟩
      | cons d put =>
        exact ⟨put, left, (List.cons.inj h).2.symm, hleft,
          List.Subset.trans (List.subset_cons_self d put) hmore⟩

/-- If the name of a file leads to it, then by clear names alone. -/
theorem clear_of_normalize_join (hbase : base.Plain) (hp : p.Plain)
    (h : (base.join (.ofString (moduleId base p))).normalize = p.normalize) :
    Clear (relative base p).bytes := by
  obtain ⟨shared, up, down, hway⟩ := exists_way hbase hp
  have hcomponents : normalComponents (base.components ++ (ofString (moduleId base p)).parts) =
      p.components := by
    rw [← normalComponents_join base (isAbsolute_moduleId base p), ← normalComponents_normalize, h,
      normalComponents_normalize, hp.normalComponents_eq]
  have hstack : base.components.foldl normalStep [] = base.components.reverse := by
    rw [← List.reverse_inj, List.reverse_reverse]
    exact hbase.normalComponents_eq
  obtain ⟨put, left, hfold, hleft, hput⟩ := foldl_normalStep_suffix
    (ofString (moduleId base p)).parts base.components.reverse
  rw [normalComponents, List.foldl_append, hstack, hfold, List.reverse_append] at hcomponents
  -- what the file has beyond the directory was put there by the name
  have hshared : left.reverse <+: base.components := by
    simpa using List.reverse_prefix.2 hleft
  have hdown : (afterCommon base.components (left.reverse ++ put.reverse)).2 <:+ put.reverse :=
    afterCommon_snd_suffix hshared
  rw [hcomponents, ← hway.down_eq] at hdown
  refine hway.clear_relative.2 fun n hn => ?_
  have hmem : .name n ∈ (ofString (moduleId base p)).parts :=
    hput (List.mem_reverse.1 (hdown.subset (List.mem_map_of_mem hn)))
  rw [parts_moduleId] at hmem
  exact clear_of_name_mem_parts (clear_slashed _) hmem

end Names

section Inverse

/-- An absolute path that normalizing leaves where it is. -/
def Normal (p : Path) : Prop := p.isAbsolute ∧ p.normalize.components = p.components

instance (p : Path) : Decidable p.Normal :=
  inferInstanceAs (Decidable (p.isAbsolute ∧ p.normalize.components = p.components))

theorem normal_iff_plain : p.Normal ↔ p.Plain := by
  constructor
  · rintro ⟨habsolute, hnormal⟩
    obtain ⟨names, hnames, heq⟩ := normalComponents_of_isAbsolute habsolute
    refine ⟨names, hnames, ?_⟩
    rw [← hnormal, components_normalize p (by simp [heq]), heq]
  · intro hplain
    have hfixed := hplain.normalComponents_eq
    have hne : normalComponents p.components ≠ [] := by
      obtain ⟨names, -, heq⟩ := hplain
      rw [hfixed, heq]
      exact List.cons_ne_nil _ _
    exact ⟨hplain.isAbsolute, (components_normalize p hne).trans hfixed⟩

/-- Two files whose names are no text. -/
example : moduleId ⟨[slash]⟩ ⟨[slash, 0xFE]⟩ = moduleId ⟨[slash]⟩ ⟨[slash, 0xFF]⟩ := by decide

end Inverse

end ModuleBundler.Path
