import ModuleBundler.Proofs.Path.Normal

/-! Where a joined path leads. A relative path adds to the place of a directory what it is made of
besides empty texts and single dots, so two texts may lead to one place. -/
namespace ModuleBundler.Path

open Component (ofSegment? ofSegment?_cases)

variable {base p q : Path}

def parts (p : Path) : List Component := (segmentsOf p.bytes).filterMap ofSegment?

theorem segmentsOf_append (bs rest : List UInt8) :
    segmentsOf (bs ++ slash :: rest) = segmentsOf bs ++ segmentsOf rest :=
  List.splitOn_append_cons_self bs rest

theorem parts_append (bs rest : List UInt8) :
    parts ⟨bs ++ slash :: rest⟩ = parts ⟨bs⟩ ++ parts ⟨rest⟩ := by
  rw [parts, segmentsOf_append, List.filterMap_append]
  rfl

@[simp] theorem parts_nil : parts ⟨[]⟩ = [] := rfl

theorem components_of_isAbsolute (h : p.isAbsolute) : p.components = .root :: p.parts := by
  obtain ⟨bs, rfl⟩ := isAbsolute_iff.1 h
  rw [components_slash]
  exact congrArg _ (parts_append [] bs).symm

theorem parts_join (base : Path) (hp : p.isAbsolute = false) :
    (base.join p).parts = base.parts ++ p.parts := by
  rw [join, if_neg (by simp [hp])]
  split
  · next hend =>
    rcases List.eq_nil_or_concat base.bytes with hnil | ⟨bs, last, hlast⟩
    · have hbase : base = ⟨[]⟩ := congrArg Path.mk hnil
      rw [hbase, parts_nil]
      rfl
    -- the slash at the end of the directory stands before the path
    · obtain rfl : last = slash := by simpa [hlast] using hend
      have hbase : base = ⟨bs ++ slash :: []⟩ := congrArg Path.mk (by simpa using hlast)
      rw [hbase, List.append_assoc, List.cons_append, List.nil_append, parts_append, parts_append,
        parts_nil, List.append_nil]
  · exact parts_append base.bytes p.bytes

theorem components_join (hbase : base.isAbsolute) (hp : p.isAbsolute = false) :
    (base.join p).components = base.components ++ p.parts := by
  rw [components_of_isAbsolute (isAbsolute_join hbase p), components_of_isAbsolute hbase,
    parts_join base hp, List.cons_append]

/-- A path of names and steps up alone, with single slashes between them. -/
def Tidy (p : Path) : Prop := ∀ s ∈ segmentsOf p.bytes, (ofSegment? s).isSome

instance (p : Path) : Decidable p.Tidy :=
  inferInstanceAs (Decidable (∀ s ∈ segmentsOf p.bytes, (ofSegment? s).isSome))

theorem Tidy.isAbsolute (h : p.Tidy) : p.isAbsolute = false := by
  rw [Bool.eq_false_iff]
  intro habs
  obtain ⟨bs, rfl⟩ := isAbsolute_iff.1 habs
  have hfirst := h [] (by rw [← List.nil_append (slash :: bs), segmentsOf_append]; exact .head _)
  cases hfirst

theorem bytes_of_ofSegment? {segment : List UInt8} {c : Component}
    (h : ofSegment? segment = some c) : c.bytes = segment := by
  rcases ofSegment?_cases h with ⟨rfl, rfl⟩ | rfl <;> rfl

theorem Tidy.joinSegments_parts (h : p.Tidy) :
    joinSegments (p.parts.map Component.bytes) = p.bytes := by
  have key : ∀ segments : List (List UInt8), (∀ s ∈ segments, (ofSegment? s).isSome) →
      (segments.filterMap ofSegment?).map Component.bytes = segments := by
    intro segments
    induction segments with
    | nil => exact fun _ => rfl
    | cons s more ih =>
      intro hs
      obtain ⟨hfirst, hmore⟩ := List.forall_mem_cons.1 hs
      obtain ⟨c, hc⟩ := Option.isSome_iff_exists.1 hfirst
      rw [List.filterMap_cons_some hc, List.map_cons, bytes_of_ofSegment? hc, ih hmore]
  rw [parts, key _ h, joinSegments_segmentsOf]

theorem Tidy.eq_of_components_join_eq (hbase : base.isAbsolute) (hp : p.Tidy) (hq : q.Tidy)
    (h : (base.join p).components = (base.join q).components) : p = q := by
  rw [components_join hbase hp.isAbsolute, components_join hbase hq.isAbsolute] at h
  have hbytes : p.bytes = q.bytes := by
    rw [← hp.joinSegments_parts, List.append_cancel_left h, hq.joinSegments_parts]
  exact congrArg Path.mk hbytes

section FileName

theorem exists_segmentsOf_append (bs : List UInt8) {ending : List UInt8} (h : slash ∉ ending) :
    ∃ init last, segmentsOf (bs ++ ending) = init ++ [last ++ ending] := by
  have hne : segmentsOf bs ≠ [] := List.splitOn_ne_nil slash bs
  obtain ⟨init, last, hsegments⟩ := List.eq_nil_or_concat (segmentsOf bs) |>.resolve_left hne
  rw [List.concat_eq_append] at hsegments
  have hbs := joinSegments_segmentsOf bs
  have hslash : ∀ s ∈ init ++ [last], slash ∉ s := fun s hs =>
    no_slash_of_mem_segmentsOf (hsegments ▸ hs)
  refine ⟨init, last, ?_⟩
  rw [hsegments] at hbs
  have hjoin : bs ++ ending = joinSegments (init ++ [last ++ ending]) := by
    by_cases hinit : init = []
    · subst hinit
      rw [← hbs]
      simp [joinSegments]
    · rw [← hbs, joinSegments_concat hinit, joinSegments_concat hinit]
      simp
  rw [hjoin]
  refine segmentsOf_joinSegments (by simp) fun s hs => ?_
  rcases List.mem_append.1 hs with hs | hs
  · exact hslash s (List.mem_append_left _ hs)
  · rw [List.mem_singleton.1 hs, List.mem_append, not_or]
    exact ⟨hslash last (by simp), h⟩

theorem fileName?_of_segmentsOf {init : List (List UInt8)} {last : List UInt8}
    (h : segmentsOf p.bytes = init ++ [last]) (hlast : ofSegment? last = some (.name last)) :
    p.fileName? = some last := by
  have hconcat (before : List Component) (segments : List (List UInt8)) :
      (before ++ (segments ++ [last]).filterMap ofSegment?).getLast? = some (.name last) := by
    rw [List.filterMap_append, List.filterMap_cons, hlast]
    simp
  suffices hcomponents : p.components.getLast? = some (.name last) by
    rw [fileName?, hcomponents]
  unfold components
  rw [h]
  cases init with
  | nil =>
    -- a single segment that is a name has neither a root nor a dot before it
    have hrelative : p.isAbsolute = false := by
      rw [Bool.eq_false_iff]
      intro habs
      obtain ⟨bs, rfl⟩ := isAbsolute_iff.1 habs
      rw [← List.nil_append (slash :: bs), segmentsOf_append] at h
      obtain ⟨rfl, -⟩ := List.cons.inj (show [] :: segmentsOf bs = [last] from h)
      cases hlast
    have hdot : (last == [dot]) = false := by
      rw [beq_eq_false_iff_ne]
      rintro rfl
      cases hlast
    simp [hrelative, hdot, hlast]
  | cons first more =>
    dsimp only [List.cons_append]
    split
    · exact hconcat [.root] more
    · split
      · exact hconcat [.here] more
      · exact hconcat _ more

end FileName

end ModuleBundler.Path
