import Mathlib.Data.List.TakeDrop
import ModuleBundler.Json.Reader
import ModuleBundler.Proofs.Decimal.Text

/-! Reading JSON step by step: what the steps of a reader take from the front of a text, wherever
the text stands. Blanks may stand before every word of a document. -/
namespace ModuleBundler.Json

def isBlank (c : Char) : Bool := c == ' ' || c == '\n' || c == '\t' || c == '\r'

def Blank (text : List Char) : Prop := ∀ c ∈ text, isBlank c = true

theorem Blank.nil : Blank [] := nofun

/-- A value that stands before this text ends there: a blank, a comma, a closing bracket or nothing
at all. -/
def Ends (rest : List Char) : Prop :=
  ∀ c, rest.head? = some c → c ∈ [' ', '\n', '\t', '\r', ',', ']', '\x7d']

theorem Ends.nil : Ends [] := nofun

theorem Ends.cons {c : Char} (h : c ∈ [' ', '\n', '\t', '\r', ',', ']', '\x7d'])
    (rest : List Char) : Ends (c :: rest) := by
  rintro d ⟨⟩
  exact h

theorem Ends.blank_append {text rest : List Char} (h : Blank text) (hrest : Ends rest) :
    Ends (text ++ rest) := by
  cases text with
  | nil => exact hrest
  | cons b more =>
    refine .cons ?_ _
    have hb := h b List.mem_cons_self
    simp only [isBlank, Bool.or_eq_true, beq_iff_eq] at hb
    rcases hb with ((rfl | rfl) | rfl) | rfl <;> decide

theorem Ends.head?_mem {rest : List Char} (h : Ends rest) :
    rest.head? ∈ [none, some ' ', some '\n', some '\t', some '\r', some ',', some ']',
      some '\x7d'] := by
  cases hhead : rest.head? with
  | none => exact List.mem_cons_self
  | some c => simpa using h c hhead

theorem Ends.not_digit {rest : List Char} (h : Ends rest) :
    ∀ c, rest.head? = some c → c.isDigit = false := by
  have hall : ([' ', '\n', '\t', '\r', ',', ']', '\x7d'].all fun c => !c.isDigit) = true := by
    decide
  intro c hc
  simpa using List.all_eq_true.1 hall c (h c hc)

namespace Reader

variable {α β : Type} {p : Reader α} {a : α} {text rest middle gap : List Char} {c : Char}

/-- A step goes on from a text to another, wherever that begins, and has a result. -/
def Takes (p : Reader α) (text : List Char) (a : α) (rest : List Char) : Prop :=
  ∀ pos, ∃ pos', p ⟨text, pos⟩ = .ok a ⟨rest, pos'⟩

section Calculus

theorem takes_pure (a : α) (text : List Char) : Takes (pure a) text a text :=
  fun pos => ⟨pos, rfl⟩

theorem Takes.bind {f : α → Reader β} {b : β} (h : Takes p text a middle)
    (h' : Takes (f a) middle b rest) : Takes (p >>= f) text b rest := by
  intro pos
  obtain ⟨pos₁, hp⟩ := h pos
  obtain ⟨pos₂, hf⟩ := h' pos₁
  refine ⟨pos₂, ?_⟩
  show EStateM.bind p f ⟨text, pos⟩ = _
  unfold EStateM.bind
  rw [hp]
  exact hf

theorem Takes.map {f : α → β} (h : Takes p text a rest) :
    Takes (p >>= fun a => pure (f a)) text (f a) rest :=
  h.bind (takes_pure _ _)

theorem Takes.map_eq {f : α → β} {b : β} (h : Takes p text a rest) (hb : f a = b) :
    Takes (p >>= fun a => pure (f a)) text b rest :=
  hb ▸ h.map

theorem Takes.discard (h : Takes p text a rest) : Takes (discard p) text ⟨⟩ rest := by
  intro pos
  obtain ⟨pos', hp⟩ := h pos
  refine ⟨pos', ?_⟩
  show EStateM.map (fun _ => PUnit.unit) p ⟨text, pos⟩ = _
  unfold EStateM.map
  rw [hp]

theorem Takes.placed (h : Takes p text a rest) : Takes (placed p) text a rest := by
  intro pos
  obtain ⟨pos', hp⟩ := h pos
  refine ⟨pos', ?_⟩
  unfold Reader.placed
  rw [hp]

theorem Takes.closedBy {finish : Reader Unit} (h : Takes p text a middle)
    (h' : Takes finish middle ⟨⟩ rest) : Takes (closedBy p finish) text a rest := by
  intro pos
  obtain ⟨pos₁, hp⟩ := h pos
  obtain ⟨pos₂, hfinish⟩ := h' pos₁
  refine ⟨pos₂, ?_⟩
  unfold Reader.closedBy
  rw [hp]
  dsimp only
  rw [hfinish]

end Calculus

section Steps

theorem takes_peek (text : List Char) : Takes peek? text text.head? text :=
  fun pos => ⟨pos, rfl⟩

theorem takes_get_bind {f : Place → Reader α} (h : ∀ pos, Takes (f ⟨text, pos⟩) text a rest) :
    Takes (get >>= f) text a rest :=
  fun pos => h pos pos

theorem takes_next (c : Char) (rest : List Char) : Takes next? (c :: rest) (some c) rest :=
  fun pos => ⟨pos + c.utf8Size, rfl⟩

theorem takes_eat (c : Char) (rest : List Char) : Takes eat (c :: rest) ⟨⟩ rest :=
  fun pos => ⟨pos + c.utf8Size, rfl⟩

theorem takes_bound (text : List Char) : Takes bound text (text.length + 1) text :=
  fun pos => ⟨pos, rfl⟩

theorem takes_takeWhile {q : Char → Bool} (htext : ∀ c ∈ text, q c = true)
    (hrest : ∀ c, rest.head? = some c → q c = false) :
    Takes (takeWhile q) (text ++ rest) text rest := by
  have hspan : (text ++ rest).span q = (text, rest) := by
    rw [List.span_eq_takeWhile_dropWhile, List.takeWhile_append_of_pos htext,
      List.dropWhile_append_of_pos htext]
    cases rest with
    | nil => simp
    | cons c more => simp [hrest c rfl]
  intro pos
  refine ⟨pos + text.foldl (fun n (c : Char) => n + c.utf8Size) 0, ?_⟩
  show EStateM.Result.ok ((text ++ rest).span q).1 (⟨((text ++ rest).span q).2,
    pos + ((text ++ rest).span q).1.foldl (fun n (c : Char) => n + c.utf8Size) 0⟩ : Place) = _
  rw [hspan]

theorem takes_peekValue (hgap : Blank gap) (hc : isBlank c = false) (rest : List Char) :
    Takes peekValue? (gap ++ c :: rest) (some c) (c :: rest) := by
  refine (takes_takeWhile (q := isBlank) hgap ?_).discard.bind (takes_peek (c :: rest))
  rintro d ⟨⟩
  exact hc

theorem takes_peekValue_nil : Takes peekValue? [] none [] := fun pos => ⟨pos, rfl⟩

theorem takes_word (word : List Char) (rest : List Char) :
    Takes (Reader.word word) (word ++ rest) ⟨⟩ rest := by
  induction word with
  | nil => exact takes_pure _ _
  | cons c more ih =>
    refine (takes_peek _).bind ?_
    simp only [List.cons_append, List.head?_cons, beq_self_eq_true, if_true]
    exact (takes_pure _ _).bind ((takes_eat c _).bind ih)

theorem takes_finish : Takes finish [] ⟨⟩ [] := takes_peekValue_nil.bind (takes_pure _ _)

theorem run_eq_ok {text : String} (h : Takes p text.toList a []) : run p text = .ok a := by
  have hwhole := h.bind (f := fun a => do finish; return a)
    (takes_finish.bind (takes_pure a []))
  obtain ⟨pos, hrun⟩ := hwhole 0
  unfold run
  dsimp only
  rw [hrun]

end Steps

section Strings

theorem takes_hexQuad {a b c d : Char} {i j k l : Nat} (ha : hexDigit? a = some i)
    (hb : hexDigit? b = some j) (hc : hexDigit? c = some k) (hd : hexDigit? d = some l)
    (rest : List Char) :
    Takes hexQuad (a :: b :: c :: d :: rest) (((i * 16 + j) * 16 + k) * 16 + l) rest := by
  have hsizes := And.intro a.utf8Size_pos (And.intro b.utf8Size_pos
    (And.intro c.utf8Size_pos d.utf8Size_pos))
  refine takes_get_bind fun pos => ?_
  dsimp only
  split
  · next hshort =>
    simp only [List.take, List.foldl] at hshort
    omega
  · simp only [ha, hb, hc, hd]
    exact fun _ => ⟨pos + 4, rfl⟩

theorem takes_escape_short {d : Char} (h : shortEscape? c = some d) (hc : c ≠ 'u')
    (rest : List Char) : Takes escape (c :: rest) d rest := by
  refine (takes_peek _).bind ?_
  rw [List.head?_cons]
  split
  · cases ‹some c = none›
  · cases ‹some c = some 'u'›
    exact absurd rfl hc
  · cases ‹some c = some _›
    rw [h]
    exact (takes_eat _ _).map

theorem takes_escape_control (h : c.toNat < 0x20) (rest : List Char) :
    Takes escape ('u' :: '0' :: '0' :: (Text.hexPair c.toNat ++ rest)) c rest := by
  have hdigits : ∀ n < 0x20, hexDigit? (Nat.digitChar (n / 16)) = some (n / 16) ∧
      hexDigit? (Nat.digitChar (n % 16)) = some (n % 16) := by
    decide
  obtain ⟨hhigh, hlow⟩ := hdigits c.toNat h
  have hquad := takes_hexQuad (a := '0') (b := '0') (i := 0) (j := 0) rfl rfl hhigh hlow rest
  rw [show ((0 * 16 + 0) * 16 + c.toNat / 16) * 16 + c.toNat % 16 = c.toNat by omega] at hquad
  refine (takes_peek _).bind ((takes_eat _ _).bind (hquad.bind ?_))
  -- it is no half of a surrogate pair
  dsimp only
  rw [if_neg (by simp; omega), if_pos (by simp; omega), Char.ofNat_toNat]
  exact takes_pure c rest

theorem takes_quoteChar (c b : Char) {bound taken : List Char} {whole : List Char}
    (h : Takes (stringTail bound (c :: taken)) text whole rest) :
    Takes (stringTail (b :: bound) taken) (Text.quoteChar c ++ text) whole rest := by
  obtain ⟨d, hletter, hchars⟩ | ⟨hcontrol, hchars⟩ | ⟨hquote, hslash, hplain, hchars⟩ :=
    Text.quoteChar_cases c
  · simp only [Text.letters, List.mem_cons, Prod.mk.injEq, List.not_mem_nil, or_false] at hletter
    rw [hchars]
    refine (takes_next _ _).bind (Takes.bind (a := c) ?_ h)
    rcases hletter with ⟨rfl, rfl⟩ | ⟨rfl, rfl⟩ | ⟨rfl, rfl⟩ | ⟨rfl, rfl⟩ | ⟨rfl, rfl⟩ |
      ⟨rfl, rfl⟩ | ⟨rfl, rfl⟩ <;>
      exact takes_escape_short rfl (by decide) text
  · rw [hchars]
    exact (takes_next _ _).bind ((takes_escape_control hcontrol text).bind h)
  · rw [hchars]
    refine (takes_next c text).bind ?_
    simp only
    rw [if_neg hplain]
    exact h

theorem takes_stringTail (cs : List Char) {bound : List Char} (hbound : cs.length < bound.length)
    (taken rest : List Char) :
    Takes (stringTail bound taken) (cs.flatMap Text.quoteChar ++ '"' :: rest)
      (cs.reverse ++ taken) rest := by
  induction cs generalizing bound taken with
  | nil =>
    obtain ⟨b, bound, rfl⟩ := List.exists_cons_of_ne_nil (List.ne_nil_of_length_pos hbound)
    exact (takes_next '"' rest).bind (takes_pure taken rest)
  | cons c more ih =>
    obtain ⟨b, bound, rfl⟩ := List.exists_cons_of_ne_nil
      (List.ne_nil_of_length_pos (Nat.lt_of_le_of_lt (Nat.zero_le _) hbound))
    rw [List.flatMap_cons, List.append_assoc, List.reverse_cons, List.append_assoc]
    exact takes_quoteChar c b (ih (Nat.lt_of_succ_lt_succ hbound) (c :: taken))

theorem takes_string (s : String) (rest : List Char) :
    Takes string (s.toList.flatMap Text.quoteChar ++ '"' :: rest) s rest := by
  have hbound : s.toList.length < (s.toList.flatMap Text.quoteChar ++ '"' :: rest).length := by
    have hlength := Text.length_le_flatMap_quoteChar s.toList
    rw [List.length_append, List.length_cons]
    omega
  have hvalue : String.ofList (s.toList.reverse ++ []).reverse = s := by
    rw [List.append_nil, List.reverse_reverse, String.ofList_toList]
  have hmap : Takes string _ (String.ofList (s.toList.reverse ++ []).reverse) rest :=
    takes_get_bind fun pos => (takes_stringTail s.toList hbound [] rest).map
  rwa [hvalue] at hmap

end Strings

section Numbers

open Decimal (Digits)

theorem le_ofDigitChars (ds : List Char) (n : Nat) : n ≤ Nat.ofDigitChars 10 ds n := by
  rw [Nat.ofDigitChars_eq_ofDigitChars_zero]
  exact Nat.le_trans (Nat.le_mul_of_pos_left n (Nat.pow_pos (by decide))) (Nat.le_add_right ..)

theorem accumulate_append {ds : List Char} (hds : Digits ds)
    (hrest : ∀ c, rest.head? = some c → c.isDigit = false) (n count : Nat)
    (hfits : Nat.ofDigitChars 10 ds n ≤ maxNatural) :
    accumulate n (ds ++ rest) count =
      (Nat.ofDigitChars 10 ds n, count + ds.length, rest, false) := by
  induction ds generalizing n count with
  | nil =>
    cases rest with
    | nil => rfl
    | cons c more => simp [accumulate, hrest c rfl]
  | cons d ds ih =>
    obtain ⟨hd, hds⟩ := List.forall_mem_cons.1 hds
    have hstep : n * 10 + digitValue d = 10 * n + (d.toNat - '0'.toNat) := by
      rw [Nat.mul_comm]
      rfl
    rw [Nat.ofDigitChars_cons, ← hstep] at hfits ⊢
    have hle : ¬ n * 10 + digitValue d > maxNatural :=
      Nat.not_lt.2 ((le_ofDigitChars ds _).trans hfits)
    rw [List.cons_append, accumulate, if_pos hd]
    simp only [if_neg hle]
    rw [ih hds _ _ hfits, List.length_cons, Nat.add_right_comm, Nat.add_assoc]

theorem takes_takeDigits {ds : List Char} (hds : Digits ds)
    (hrest : ∀ c, rest.head? = some c → c.isDigit = false) (n : Nat)
    (hfits : Nat.ofDigitChars 10 ds n ≤ maxNatural) :
    Takes (takeDigits n) (ds ++ rest) (Nat.ofDigitChars 10 ds n, ds.length, false) rest := by
  refine takes_get_bind fun pos => ?_
  simp only [accumulate_append hds hrest n 0 hfits, Nat.zero_add]
  exact fun _ => ⟨pos + ds.length, rfl⟩

def signed : Bool → Nat → JsonNumber
  | false, n => .natural n
  | true, n => .negative n

theorem takes_number (negative : Bool) {n : Nat} (hfits : n ≤ maxNatural)
    (hsign : negative = true → n ≠ 0 ∧ n ≤ Nat.pow 2 63) (hrest : Ends rest) :
    Takes (number negative) (Nat.toDigits 10 n ++ rest) (signed negative n) rest := by
  rcases eq_or_ne n 0 with rfl | hn
  · have hnatural : negative = false := by simpa using hsign
    subst hnatural
    unfold number
    refine (takes_peek _).bind ?_
    simp only [Nat.toDigits_zero, List.cons_append, List.nil_append, List.head?_cons]
    refine (takes_eat '0' rest).bind ((takes_peek rest).bind ?_)
    -- nothing that can follow a number goes on with it
    have hend := hrest.head?_mem
    simp only [List.mem_cons, List.not_mem_nil, or_false] at hend
    rcases hend with h | h | h | h | h | h | h | h <;>
      exact h ▸ (takes_pure (0, 0, false) rest).bind
        ((takes_peek rest).bind (h ▸ takes_pure _ rest))
  · obtain ⟨c, more, hdigits, hc⟩ := Decimal.exists_toDigits_eq_cons hn
    obtain ⟨hdigit, hmore⟩ := List.forall_mem_cons.1 (hdigits ▸ Decimal.digits_toDigits n)
    have hbeq : (c == '0') = false := beq_false_of_ne hc
    have hvalue : Nat.ofDigitChars 10 more (digitValue c) = n := by
      have hwhole : Nat.ofDigitChars 10 (Nat.toDigits 10 n) 0 = n := Nat.ofDigitChars_ten_toDigits
      rwa [hdigits, Nat.ofDigitChars_cons, Nat.mul_zero, Nat.zero_add] at hwhole
    rw [hdigits]
    unfold number
    refine (takes_peek _).bind ?_
    simp only [List.cons_append, List.head?_cons, hdigit, hbeq, if_true, Bool.false_eq_true,
      if_false]
    have htaken := takes_takeDigits hmore hrest.not_digit (digitValue c) (hvalue.symm ▸ hfits)
    refine (takes_eat c _).bind (htaken.bind ((takes_peek rest).bind ?_))
    rw [hvalue]
    have hend := hrest.head?_mem
    simp only [List.mem_cons, List.not_mem_nil, or_false] at hend
    cases negative with
    | false => rcases hend with h | h | h | h | h | h | h | h <;> exact h ▸ takes_pure _ rest
    | true =>
      have hinteger : (n == 0 || decide (n > Nat.pow 2 63)) = false := by
        simpa [hn] using (hsign rfl).2
      rcases hend with h | h | h | h | h | h | h | h <;>
        simp only [h, hinteger, Bool.not_true, Bool.false_eq_true, if_false] <;>
        exact takes_pure _ rest

end Numbers

end Reader

end ModuleBundler.Json
