import Mathlib.Data.List.Nodup
import ModuleBundler.Edit

/-! Edits as one substitution. Stretches of a text that lie apart are replaced from the last to the
first, so that each still counts the bytes before it, and the order in which they were decided on
does not matter. -/
namespace ModuleBundler

open Script (Span byteLength byteLength_cons byteLength_append byteLength_pos)

theorem splitBytes_append (before after : List Char) :
    splitBytes (byteLength before) (before ++ after) = (before, after) := by
  induction before with
  | nil => cases after <;> rfl
  | cons c more ih =>
    have hpos : c.utf8Size + byteLength more ≠ 0 := by
      have := c.utf8Size_pos
      omega
    rw [byteLength_cons, List.cons_append, splitBytes, if_neg hpos, Nat.add_sub_cancel_left,
      ih]

theorem Edit.replaceIn_eq (before old after : List Char) (replacement : String) :
    Edit.replaceIn (before ++ old ++ after)
        ⟨⟨byteLength before, byteLength before + byteLength old⟩, replacement⟩ =
      before ++ replacement.toList ++ after := by
  simp only [Edit.replaceIn, List.append_assoc, splitBytes_append, Nat.add_sub_cancel_left]

/-- Stretches of a text that follow each other, none of them empty. The text stands behind some
bytes. -/
inductive Separate : Nat → List Char → List Span → Prop where
  | nil (pos : Nat) (text : List Char) : Separate pos text []
  | cons {pos : Nat} {rest : List Char} {spans : List Span} (before : List Char) {old : List Char}
      (hold : old ≠ []) (h : Separate (pos + byteLength before + byteLength old) rest spans) :
      Separate pos (before ++ old ++ rest)
        (⟨pos + byteLength before, pos + byteLength before + byteLength old⟩ :: spans)

/-- A text with stretches of it replaced, and all else as it was. -/
inductive Substituted : Nat → List Char → List Edit → List Char → Prop where
  | nil (pos : Nat) (text : List Char) : Substituted pos text [] text
  | cons {pos : Nat} {rest rest' : List Char} {edits : List Edit} (before : List Char)
      {old : List Char} (hold : old ≠ []) (replacement : String)
      (h : Substituted (pos + byteLength before + byteLength old) rest edits rest') :
      Substituted pos (before ++ old ++ rest)
        (⟨⟨pos + byteLength before, pos + byteLength before + byteLength old⟩, replacement⟩ ::
          edits)
        (before ++ replacement.toList ++ rest')

variable {pos : Nat} {text text' : List Char} {edits : List Edit} {spans : List Span}

theorem Separate.substituted (h : Separate pos text spans) (hspans : edits.map Edit.span = spans) :
    ∃ text', Substituted pos text edits text' := by
  induction h generalizing edits with
  | nil pos text =>
    rw [List.map_eq_nil_iff.1 hspans]
    exact ⟨text, .nil pos text⟩
  | cons before hold h ih =>
    obtain ⟨⟨span, replacement⟩, more, rfl, rfl, hmore⟩ := List.map_eq_cons_iff.1 hspans
    obtain ⟨rest', hrest⟩ := ih hmore
    exact ⟨_, .cons before hold replacement hrest⟩

theorem Separate.pairwise (h : Separate pos text spans) :
    spans.Pairwise (fun a b => a.start < a.stop ∧ a.stop ≤ b.start) ∧
      ∀ s ∈ spans, pos ≤ s.start ∧ s.start < s.stop := by
  induction h with
  | nil => simp
  | @cons pos rest spans before old hold h ih =>
    have hpos := byteLength_pos hold
    obtain ⟨hpairwise, hbounds⟩ := ih
    refine ⟨List.pairwise_cons.2 ⟨fun s hs => ?_, hpairwise⟩, fun s hs => ?_⟩
    · have := hbounds s hs
      exact ⟨by simpa using hpos, by simpa using this.1⟩
    · rcases List.mem_cons.1 hs with rfl | hs
      · exact ⟨by simp, by simpa using hpos⟩
      · have := hbounds s hs
        omega

theorem Separate.nodup (h : Separate pos text spans) : spans.Nodup :=
  h.pairwise.1.imp fun hab heq => by
    subst heq
    omega

theorem Substituted.behind {front : List Char}
    (h : Substituted (pos + byteLength front) text edits text') :
    Substituted pos (front ++ text) edits (front ++ text') := by
  generalize hpos : pos + byteLength front = start at h
  cases h with
  | nil => exact .nil pos _
  | cons before hold replacement h =>
    subst hpos
    have hfront := @Substituted.cons pos _ _ _ (front ++ before) _ hold replacement
      (by rwa [byteLength_append, ← Nat.add_assoc])
    simp only [byteLength_append, ← Nat.add_assoc, List.append_assoc] at hfront ⊢
    exact hfront

theorem Substituted.separate (h : Substituted pos text edits text') :
    Separate pos text (edits.map Edit.span) := by
  induction h with
  | nil pos text => exact .nil pos text
  | cons before hold _ _ ih => exact .cons before hold ih

theorem Substituted.foldl_reverse (h : Substituted pos text edits text') (lead : List Char)
    (hlead : byteLength lead = pos) :
    edits.reverse.foldl Edit.replaceIn (lead ++ text) = lead ++ text' := by
  induction h generalizing lead with
  | nil => rfl
  | @cons pos rest rest' edits before old hold replacement _ ih =>
    -- the later edits are made first, behind this stretch as it was
    have hrest := ih (lead ++ before ++ old) (by simp [hlead, Nat.add_assoc])
    have hedit := Edit.replaceIn_eq (lead ++ before) old rest' replacement
    rw [byteLength_append, hlead] at hedit
    rw [List.reverse_cons, List.foldl_append, List.foldl_cons, List.foldl_nil]
    simp only [List.append_assoc] at hrest hedit ⊢
    rw [hrest, hedit]

theorem Substituted.mergeSort_eq (h : Substituted pos text edits text') {plan : List Edit}
    (hplan : plan.Perm edits) :
    (plan.mergeSort fun a b => decide (a.span.start ≥ b.span.start)) = edits.reverse := by
  have hstarts : edits.Pairwise fun a b => a.span.start < b.span.start := by
    refine (List.pairwise_map.1 h.separate.pairwise.1).imp fun hab => ?_
    omega
  have hnd : (edits.map fun e => e.span.start).Nodup :=
    List.pairwise_map.2 (hstarts.imp Nat.ne_of_lt)
  have hsorted := (List.mergeSort_perm plan fun a b =>
    decide (a.span.start ≥ b.span.start)).trans hplan
  -- the starts differ, so there is one order in which they go down
  have hdescending : (plan.mergeSort fun a b => decide (a.span.start ≥ b.span.start)).Pairwise
      fun a b => a.span.start ≥ b.span.start :=
    (List.pairwise_mergeSort (by simp; omega) (by simp; omega) plan).imp of_decide_eq_true
  refine List.Perm.eq_of_pairwise ?_ hdescending
    (List.pairwise_reverse.2 (hstarts.imp Nat.le_of_lt)) (hsorted.trans edits.reverse_perm.symm)
  intro a b ha hb hab hba
  exact List.inj_on_of_nodup_map hnd (hsorted.subset ha) (List.mem_reverse.1 hb)
    (Nat.le_antisymm hba hab)

/-- Edits of stretches that lie apart, in whatever order they were decided on. -/
theorem EditPlan.apply_eq {text text' : List Char} {edits : List Edit}
    (h : Substituted 0 text edits text') {plan : EditPlan} (hplan : plan.edits.Perm edits) :
    plan.apply (String.ofList text) = String.ofList text' := by
  rw [EditPlan.apply, EditPlan.ordered, h.mergeSort_eq hplan, String.toList_ofList]
  exact congrArg String.ofList (h.foldl_reverse [] rfl)

end ModuleBundler
