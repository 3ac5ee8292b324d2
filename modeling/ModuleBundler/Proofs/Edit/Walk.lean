import Mathlib.Algebra.GroupWithZero.Nat
import Mathlib.Data.List.Pairwise
import ModuleBundler.Proofs.Edit.Substitution

/-! Edits that stand apart, made in one walk. A plan replaces its spans one after the other, from
the last to the first, in a text that changes on the way. If the spans lie apart, this comes to one
walk over the text as it was, which copies what no span covers and writes each replacement where its
span begins. Every span that is replaced lies between characters of the text as it is by then. -/
namespace ModuleBundler

open Script (Span byteLength byteLength_cons byteLength_append byteLength_pos)

theorem utf8ByteSize_ofList (text : List Char) :
    (String.ofList text).utf8ByteSize = byteLength text := by
  induction text with
  | nil => rfl
  | cons c more ih =>
    rw [String.ofList_cons, String.utf8ByteSize_append, String.utf8ByteSize_singleton, ih,
      byteLength_cons]

theorem utf8ByteSize_eq (text : String) : text.utf8ByteSize = byteLength text.toList := by
  rw [← utf8ByteSize_ofList, String.ofList_toList]

def Splits (text : List Char) (n : Nat) : Prop :=
  ∃ before after, text = before ++ after ∧ byteLength before = n

theorem splits_iff_isValid {text : List Char} {n : Nat} :
    Splits text n ↔ (⟨n⟩ : String.Pos.Raw).IsValid (String.ofList text) := by
  rw [String.Pos.Raw.isValid_ofList]
  constructor
  · rintro ⟨before, after, rfl, rfl⟩
    refine ⟨before.length, ?_⟩
    rw [List.take_left, utf8ByteSize_ofList]
  · rintro ⟨i, hi⟩
    refine ⟨text.take i, text.drop i, (List.take_append_drop i text).symm, ?_⟩
    rw [← utf8ByteSize_ofList, ← hi]

theorem Splits.behind {before after : List Char} {n : Nat}
    (h : Splits (before ++ after) (byteLength before + n)) : Splits after n := by
  obtain ⟨front, back, heq, hlength⟩ := h
  rcases List.append_eq_append_iff.1 heq with ⟨more, hfront, hafter⟩ | ⟨more, hbefore, hback⟩
  · refine ⟨more, back, hafter, ?_⟩
    rw [hfront, byteLength_append] at hlength
    omega
  · -- what is between the two places has no bytes, so they are one
    rw [hbefore, byteLength_append] at hlength
    have hnil : more = [] := by
      by_contra hmore
      have := byteLength_pos hmore
      omega
    subst hnil
    refine ⟨[], after, rfl, ?_⟩
    simp only [Script.byteLength_nil] at hlength ⊢
    omega

namespace Script.Span

/-- A span that starts and stops between characters of a text, or at its ends. -/
structure Within (s : Span) (text : String) : Prop where
  start_le_stop : s.start ≤ s.stop
  start_isValid : (⟨s.start⟩ : String.Pos.Raw).IsValid text
  stop_isValid : (⟨s.stop⟩ : String.Pos.Raw).IsValid text

instance (s : Span) (text : String) : Decidable (s.Within text) :=
  decidable_of_iff (s.start ≤ s.stop ∧ (⟨s.start⟩ : String.Pos.Raw).IsValid text ∧
      (⟨s.stop⟩ : String.Pos.Raw).IsValid text)
    ⟨fun h => ⟨h.1, h.2.1, h.2.2⟩, fun h => ⟨h.1, h.2, h.3⟩⟩

def Before (a b : Span) : Prop := a.stop ≤ b.start

instance (a b : Span) : Decidable (a.Before b) := inferInstanceAs (Decidable (_ ≤ _))

def Apart (a b : Span) : Prop := a.Before b ∨ b.Before a

instance (a b : Span) : Decidable (a.Apart b) := inferInstanceAs (Decidable (_ ∨ _))

theorem Apart.symm {a b : Span} (h : Apart a b) : Apart b a := Or.symm h

theorem within_append (before old after : List Char) :
    Within ⟨byteLength before, byteLength before + byteLength old⟩
      (String.ofList (before ++ old ++ after)) where
  start_le_stop := Nat.le_add_right ..
  start_isValid := splits_iff_isValid.1 ⟨before, old ++ after, List.append_assoc .., rfl⟩
  stop_isValid := splits_iff_isValid.1 ⟨before ++ old, after, rfl, byteLength_append ..⟩

def covers (s : Span) (place : Nat) : Bool := s.start ≤ place ∧ place < s.stop

end Script.Span

namespace Edit

instance : Std.Symm fun a b : Edit => a.span.Apart b.span := ⟨fun _ _ h => h.symm⟩

/-- What a walk writes for the character at a place: the character, if no span covers the place;
else the replacement where the span starts, and nothing behind that. -/
def written (edits : List Edit) (place : Nat) (c : Char) : List Char :=
  match edits.find? fun e => e.span.covers place with
  | none => [c]
  | some e => if e.span.start = place then e.replacement.toList else []

/-- One walk over a text from left to right, behind so many bytes. -/
def walk (edits : List Edit) : Nat → List Char → List Char
  | _, [] => []
  | place, c :: rest => written edits place c ++ walk edits (place + c.utf8Size) rest

section Walk

variable {edits : List Edit} {e : Edit} {place : Nat} {text : List Char}

theorem find?_covers (hapart : edits.Pairwise fun a b => a.span.Apart b.span) (he : e ∈ edits)
    (hplace : e.span.covers place) : edits.find? (fun a => a.span.covers place) = some e := by
  cases hfind : edits.find? fun a => a.span.covers place with
  | none => exact absurd hplace (List.find?_eq_none.1 hfind e he)
  | some a =>
    have ha := List.mem_of_find?_eq_some hfind
    have haplace : a.span.covers place := by
      simpa using List.find?_some hfind
    -- two edits whose spans cover one place do not lie apart
    by_contra hne
    have hae : a.span.Apart e.span :=
      hapart.forall ha he fun heq => hne (congrArg some heq)
    simp only [Span.covers, Span.Apart, Span.Before, decide_eq_true_eq] at hplace haplace hae
    omega

theorem walk_copied (text rest : List Char)
    (h : ∀ e ∈ edits, e.span.stop ≤ place ∨ place + byteLength text ≤ e.span.start) :
    walk edits place (text ++ rest) = text ++ walk edits (place + byteLength text) rest := by
  induction text generalizing place with
  | nil => rfl
  | cons c more ih =>
    have hpos := c.utf8Size_pos
    rw [byteLength_cons] at h
    have hnone : (edits.find? fun e => e.span.covers place) = none := by
      rw [List.find?_eq_none]
      intro e he
      have := h e he
      simp only [Span.covers, decide_eq_true_eq]
      omega
    rw [List.cons_append, walk, written, hnone, ih fun e he => by have := h e he; omega,
      byteLength_cons, Nat.add_assoc]
    rfl

theorem walk_dropped (hapart : edits.Pairwise fun a b => a.span.Apart b.span) (he : e ∈ edits)
    (old rest : List Char) (hstart : e.span.start < place)
    (hstop : place + byteLength old ≤ e.span.stop) :
    walk edits place (old ++ rest) = walk edits (place + byteLength old) rest := by
  induction old generalizing place with
  | nil => rfl
  | cons c more ih =>
    have hpos := c.utf8Size_pos
    rw [byteLength_cons] at hstop
    have hcovers : e.span.covers place := by
      simp only [Span.covers, decide_eq_true_eq]
      omega
    rw [List.cons_append, walk, written, find?_covers hapart he hcovers,
      ih (by omega) (by omega), byteLength_cons, Nat.add_assoc]
    simp only [if_neg (Nat.ne_of_lt hstart), List.nil_append]

theorem walk_replaced (hapart : edits.Pairwise fun a b => a.span.Apart b.span) (he : e ∈ edits)
    {old : List Char} (hold : old ≠ []) (rest : List Char)
    (hstop : e.span.start + byteLength old = e.span.stop) :
    walk edits e.span.start (old ++ rest) =
      e.replacement.toList ++ walk edits e.span.stop rest := by
  obtain ⟨c, more, rfl⟩ := List.exists_cons_of_ne_nil hold
  have hpos := c.utf8Size_pos
  rw [byteLength_cons] at hstop
  have hcovers : e.span.covers e.span.start := by
    simp only [Span.covers, decide_eq_true_eq]
    omega
  rw [List.cons_append, walk, written, find?_covers hapart he hcovers,
    walk_dropped hapart he more rest (by omega) (by omega), Nat.add_assoc, hstop]
  simp only [if_pos]

end Walk

end Edit

/-- A walk makes the substitution, also if it passed other edits before. -/
theorem Substituted.walk_eq {pos : Nat} {text text' : List Char} {edits all : List Edit}
    (h : Substituted pos text edits text')
    (hapart : all.Pairwise fun a b => a.span.Apart b.span) (hsub : edits ⊆ all)
    (hpassed : ∀ e ∈ all, e ∈ edits ∨ e.span.stop ≤ pos) : Edit.walk all pos text = text' := by
  induction h with
  | nil pos text =>
    have hcopied : Edit.walk all pos (text ++ []) =
        text ++ Edit.walk all (pos + byteLength text) [] :=
      Edit.walk_copied text [] fun e he => .inl ((hpassed e he).resolve_left List.not_mem_nil)
    rw [List.append_nil] at hcopied
    rw [hcopied]
    exact List.append_nil text
  | @cons pos rest rest' edits before old hold replacement h ih =>
    obtain ⟨he, hmore⟩ := List.cons_subset.1 hsub
    have hlater : ∀ a ∈ edits, pos + byteLength before + byteLength old ≤ a.span.start :=
      fun a ha => (h.separate.pairwise.2 a.span (List.mem_map_of_mem ha)).1
    -- an edit was passed, is the next one, or comes later
    have hcases : ∀ a ∈ all, a.span.stop ≤ pos ∨
        a = ⟨⟨pos + byteLength before, pos + byteLength before + byteLength old⟩, replacement⟩ ∨
        a ∈ edits := by
      intro a ha
      rcases hpassed a ha with ha | ha
      · exact .inr (List.mem_cons.1 ha)
      · exact .inl ha
    rw [List.append_assoc, Edit.walk_copied]
    · rw [Edit.walk_replaced hapart he hold rest rfl, ih hmore, List.append_assoc]
      intro a ha
      rcases hcases a ha with ha | rfl | ha
      · exact .inr (by omega)
      · exact .inr (Nat.le_refl _)
      · exact .inl ha
    · intro a ha
      rcases hcases a ha with ha | rfl | ha
      · exact .inl ha
      · exact .inr (Nat.le_refl _)
      · have := hlater a ha
        exact .inr (by omega)

theorem Substituted.byteLength_eq {pos : Nat} {text text' : List Char} {edits : List Edit}
    (h : Substituted pos text edits text') :
    byteLength text' + (edits.map fun e => e.span.stop - e.span.start).sum =
      byteLength text + (edits.map fun e => e.replacement.utf8ByteSize).sum := by
  induction h with
  | nil => rfl
  | cons before _ replacement _ ih =>
    simp only [byteLength_append, List.map_cons, List.sum_cons, utf8ByteSize_eq replacement,
      Nat.add_sub_cancel_left] at ih ⊢
    omega

theorem separate_of_pairwise {pos : Nat} {text : List Char} {spans : List Span}
    (hordered : spans.Pairwise Span.Before)
    (hspans : ∀ s ∈ spans, pos ≤ s.start ∧ s.start < s.stop ∧ Splits text (s.start - pos) ∧
      Splits text (s.stop - pos)) :
    Separate pos text spans := by
  induction spans generalizing pos text with
  | nil => exact .nil pos text
  | cons s more ih =>
    obtain ⟨hs, hmore⟩ := List.pairwise_cons.1 hordered
    obtain ⟨⟨hpos, hlt, hstart, hstop⟩, hspans⟩ := List.forall_mem_cons.1 hspans
    obtain ⟨before, after, rfl, hbefore⟩ := hstart
    have hbehind : Splits (before ++ after) (byteLength before + (s.stop - s.start)) := by
      convert hstop using 1
      omega
    obtain ⟨old, rest, rfl, hold⟩ := hbehind.behind
    have hspan : s = ⟨pos + byteLength before, pos + byteLength before + byteLength old⟩ := by
      rw [Span.mk.injEq]
      omega
    have hnil : old ≠ [] := by
      rintro rfl
      simp only [Script.byteLength_nil] at hold
      omega
    -- the spans behind this one are between characters of what is behind it
    have hrest : Separate (pos + byteLength before + byteLength old) rest more := by
      refine ih hmore fun t ht => ?_
      obtain ⟨-, hlt', hstart', hstop'⟩ := hspans t ht
      have hst : s.stop ≤ t.start := hs t ht
      have hback : ∀ n, s.stop ≤ n → Splits (before ++ (old ++ rest)) (n - pos) →
          Splits rest (n - (pos + byteLength before + byteLength old)) := by
        intro n hn hsplits
        rw [← List.append_assoc] at hsplits
        have hlater : Splits (before ++ old ++ rest) (byteLength (before ++ old) +
            (n - (pos + byteLength before + byteLength old))) := by
          convert hsplits using 1
          rw [byteLength_append]
          omega
        exact hlater.behind
      exact ⟨by omega, hlt', hback _ hst hstart', hback _ (by omega) hstop'⟩
    rw [hspan, ← List.append_assoc]
    exact .cons before hnil hrest

namespace EditPlan

/-- Every edit finds its span in the text that the edits before it left. -/
def Fits (plan : EditPlan) (source : String) : Prop :=
  ∀ made e more, plan.ordered = made ++ e :: more →
    e.span.Within (String.ofList (made.foldl Edit.replaceIn source.toList))

/-- The spans of the edits are not empty, they start and stop between characters of the text, and
they lie apart. -/
structure Separable (plan : EditPlan) (source : String) : Prop where
  nonempty : ∀ e ∈ plan.edits, e.span.start < e.span.stop
  within : ∀ e ∈ plan.edits, e.span.Within source
  apart : plan.edits.Pairwise fun a b => a.span.Apart b.span

variable {plan : EditPlan} {source : String}

theorem Separable.perm (h : plan.Separable source) {other : EditPlan}
    (hperm : other.edits.Perm plan.edits) : other.Separable source where
  nonempty e he := h.nonempty e (hperm.subset he)
  within e he := h.within e (hperm.subset he)
  apart := (hperm.pairwise_iff fun h => h.symm).2 h.apart

theorem Separable.exists_substituted (h : plan.Separable source) :
    ∃ edits text', plan.edits.Perm edits ∧ Substituted 0 source.toList edits text' := by
  let edits := plan.edits.mergeSort fun a b => a.span.start ≤ b.span.start
  have hperm : edits.Perm plan.edits := List.mergeSort_perm ..
  have hsorted : Separable ⟨edits⟩ source := h.perm hperm
  have hstarts : edits.Pairwise fun a b => a.span.start ≤ b.span.start :=
    (List.pairwise_mergeSort (by simp; omega) (by simp; omega) plan.edits).imp of_decide_eq_true
  have hordered : (edits.map Edit.span).Pairwise Span.Before := by
    rw [List.pairwise_map]
    -- of two spans that lie apart, the one that starts first is before the other
    refine (hstarts.and hsorted.apart).imp_of_mem fun ha hb hab => ?_
    have hane := hsorted.nonempty _ ha
    have hbne := hsorted.nonempty _ hb
    have hapart := hab.2
    unfold Span.Apart Span.Before at hapart
    unfold Span.Before
    omega
  have hseparate : Separate 0 source.toList (edits.map Edit.span) := by
    refine separate_of_pairwise hordered fun s hs => ?_
    obtain ⟨e, he, rfl⟩ := List.mem_map.1 hs
    have hwithin := hsorted.within e he
    refine ⟨Nat.zero_le _, hsorted.nonempty e he, splits_iff_isValid.2 ?_,
      splits_iff_isValid.2 ?_⟩
    · rw [String.ofList_toList]
      exact hwithin.start_isValid
    · rw [String.ofList_toList]
      exact hwithin.stop_isValid
  obtain ⟨text', hsub⟩ := hseparate.substituted rfl
  exact ⟨edits, text', hperm.symm, hsub⟩

end EditPlan

theorem Substituted.within_of_reverse {pos : Nat} {text text' : List Char} {edits : List Edit}
    (h : Substituted pos text edits text') (lead : List Char) (hlead : byteLength lead = pos)
    {made more : List Edit} {e : Edit} (hmade : edits.reverse = made ++ e :: more) :
    e.span.Within (String.ofList (made.foldl Edit.replaceIn (lead ++ text))) := by
  induction h generalizing lead more with
  | nil => simp at hmade
  | @cons pos rest rest' edits before old hold replacement h ih =>
    have hlead' : byteLength (lead ++ before ++ old) =
        pos + byteLength before + byteLength old := by
      simp [hlead, Nat.add_assoc]
    rw [List.reverse_cons] at hmade
    rcases List.eq_nil_or_concat' more with rfl | ⟨more, last, rfl⟩
    · -- the first span is replaced last, when all behind it has been replaced
      obtain ⟨hreverse, hlast⟩ := List.append_inj' hmade rfl
      have hrest := h.foldl_reverse (lead ++ before ++ old) hlead'
      simp only [List.append_assoc] at hrest
      obtain rfl := List.singleton_inj.1 hlast
      rw [← hreverse]
      simp only [List.append_assoc, hrest]
      have hwithin := Span.within_append (lead ++ before) old rest'
      rw [byteLength_append, hlead] at hwithin
      simpa only [List.append_assoc] using hwithin
    · have hreverse : edits.reverse = made ++ e :: more := by
        rw [← List.cons_append, ← List.append_assoc] at hmade
        exact (List.append_inj' hmade rfl).1
      have := ih (lead ++ before ++ old) hlead' hreverse
      simpa only [List.append_assoc] using this

namespace EditPlan

variable {plan : EditPlan} {source : String}

theorem Separable.fits (h : plan.Separable source) : plan.Fits source := by
  obtain ⟨edits, text', hperm, hsub⟩ := h.exists_substituted
  intro made e more hmade
  rw [ordered, hsub.mergeSort_eq hperm] at hmade
  exact hsub.within_of_reverse [] rfl hmade

/-- Edits that lie apart are made at once. Each replaces a span of the text as it is by then, and in
the end the text is what one walk over the source writes. So their order does not matter, and the
text gains what the replacements are longer than the spans. -/
theorem apply_eq_walk (h : plan.Separable source) :
    plan.Fits source ∧
    plan.apply source = String.ofList (Edit.walk plan.edits 0 source.toList) ∧
    (∀ other : EditPlan, other.edits.Perm plan.edits → other.apply source = plan.apply source) ∧
    (plan.apply source).utf8ByteSize +
        (plan.edits.map fun e => e.span.stop - e.span.start).sum =
      source.utf8ByteSize + (plan.edits.map fun e => e.replacement.utf8ByteSize).sum := by
  obtain ⟨edits, text', hperm, hsub⟩ := h.exists_substituted
  have happly : ∀ other : EditPlan, other.edits.Perm plan.edits →
      other.apply source = String.ofList text' := by
    intro other hother
    have := EditPlan.apply_eq hsub (hother.trans hperm)
    rwa [String.ofList_toList] at this
  have hwalk : Edit.walk plan.edits 0 source.toList = text' :=
    hsub.walk_eq h.apart hperm.symm.subset fun e he => .inl (hperm.subset he)
  refine ⟨h.fits, ?_, fun other hother => ?_, ?_⟩
  · rw [happly plan (.refl _), hwalk]
  · rw [happly other hother, happly plan (.refl _)]
  · have hlength := hsub.byteLength_eq
    rw [happly plan (.refl _), utf8ByteSize_ofList, utf8ByteSize_eq,
      (hperm.map _).sum_nat, (hperm.map _).sum_nat]
    exact hlength

def threeEdits : EditPlan := ⟨[⟨⟨5, 7⟩, ""⟩, ⟨⟨0, 1⟩, "xyz"⟩, ⟨⟨2, 4⟩, "e"⟩]⟩

theorem apply_eq_walk_three :
    threeEdits.Separable "a é bc" ∧ threeEdits.Fits "a é bc" ∧
    threeEdits.apply "a é bc" = "xyz e " ∧
    (⟨threeEdits.edits.reverse⟩ : EditPlan).apply "a é bc" = "xyz e " ∧
    "xyz e ".utf8ByteSize + 5 = "a é bc".utf8ByteSize + 4 := by
  have hseparable : threeEdits.Separable "a é bc" :=
    ⟨by decide, by decide +kernel, by decide⟩
  have hwritten : String.ofList (Edit.walk threeEdits.edits 0 "a é bc".toList) = "xyz e " := by
    decide +kernel
  obtain ⟨hfits, happly, hperm, hsize⟩ := apply_eq_walk hseparable
  rw [happly, hwritten] at hperm hsize
  refine ⟨hseparable, hfits, happly.trans hwritten, ?_, hsize⟩
  exact hperm _ (List.reverse_perm _)

end EditPlan

end ModuleBundler
