import ModuleBundler.Proofs.Script.Front

/-! How far the lexer looks. A token is read from the signs that spell it, and of what stands behind
them only the front counts. So each token stays what it is where a word or a string further on gives
way to another. -/
namespace ModuleBundler.Script

open Lexer

def BeginsWord (c : Char) : Prop := isNameStart c = true ∨ c = '\\'

def IsQuote (c : Char) : Prop := c = '"' ∨ c = '\x27'

/-- Texts that are the same as far as a place where words begin in both, or strings. -/
inductive Alike : List Char → List Char → Prop where
  | nil : Alike [] []
  | same (c : Char) {rest rest' : List Char} (h : Alike rest rest') :
      Alike (c :: rest) (c :: rest')
  | word {c : Char} (h : BeginsWord c) (rest rest' : List Char) : Alike (c :: rest) ('_' :: rest')
  | quote {c : Char} (h : IsQuote c) (rest rest' : List Char) : Alike (c :: rest) ('"' :: rest')

/-- Texts that begin with the same sign, or both with a quote. -/
inductive SameFront : List Char → List Char → Prop where
  | nil : SameFront [] []
  | same (c : Char) (rest rest' : List Char) : SameFront (c :: rest) (c :: rest')
  | quote {c : Char} (h : IsQuote c) (rest rest' : List Char) :
      SameFront (c :: rest) ('"' :: rest')

section Fronts

variable {rest rest' : List Char}

theorem Alike.refl (text : List Char) : Alike text text := by
  induction text with
  | nil => exact .nil
  | cons c more ih => exact .same c ih

theorem Alike.append (h : Alike rest rest') (front : List Char) :
    Alike (front ++ rest) (front ++ rest') := by
  induction front with
  | nil => exact h
  | cons c more ih => exact .same c ih

theorem SameFront.refl (text : List Char) : SameFront text text := by
  cases text with
  | nil => exact .nil
  | cons c more => exact .same c _ _

theorem SameFront.append (h : SameFront rest rest') (front : List Char) :
    SameFront (front ++ rest) (front ++ rest') := by
  cases front with
  | nil => exact h
  | cons c more => exact .same c _ _

theorem SameFront.any {p : Char → Bool} (h : SameFront rest rest')
    (hp : ∀ c, IsQuote c → p c = false) : rest'.head?.any p = rest.head?.any p := by
  cases h with
  | nil | same => rfl
  | quote hc => simp [hp _ hc, hp '"' (.inl rfl)]

/-- No word begins at the front of a text. -/
def NoWord (rest : List Char) : Prop := ∀ c, rest.head? = some c → ¬ BeginsWord c

theorem Alike.sameFront (h : Alike rest rest') (hrest : NoWord rest) : SameFront rest rest' := by
  cases h with
  | nil => exact .nil
  | same c h => exact .same c _ _
  | word hc => exact absurd hc (hrest _ rfl)
  | quote hc => exact .quote hc _ _

end Fronts

/-- A reader takes what stands before `rest`, and takes it before each text that passes a test. -/
def ReadsTo {α : Type} (read : List Char → Nat → α) (found : Cursor → α) (P : List Char → Prop)
    (text rest : List Char) : Prop :=
  ∃ spelling, text = spelling ++ rest ∧
    ∀ rest' pos, P rest' → read (spelling ++ rest') pos = found ⟨rest', pos + byteLength spelling⟩

section Readers

variable {α β : Type} {read second : List Char → Nat → α} {first : List Char → Nat → β}
  {found : Cursor → α} {found₁ : Cursor → β} {P : List Char → Prop} {text mid rest : List Char}

theorem ReadsTo.stop (h : ∀ rest' pos, P rest' → read rest' pos = found ⟨rest', pos⟩) :
    ReadsTo read found P rest rest :=
  ⟨[], rfl, h⟩

theorem ReadsTo.step {c : Char} (h : ReadsTo second found (SameFront rest) text rest)
    (hstep : ∀ text' pos, SameFront text text' →
      read (c :: text') pos = second text' (pos + c.utf8Size)) :
    ReadsTo read found (SameFront rest) (c :: text) rest := by
  obtain ⟨spelling, rfl, h⟩ := h
  refine ⟨c :: spelling, rfl, fun rest' pos hfront => ?_⟩
  rw [List.cons_append, hstep _ _ (hfront.append spelling), h _ _ hfront, byteLength_cons,
    Nat.add_assoc]

theorem ReadsTo.seq (h₁ : ReadsTo first found₁ (SameFront mid) text mid)
    (h₂ : ReadsTo second found (SameFront rest) mid rest)
    (hread : ∀ text' pos at_, SameFront text text' → first text' pos = found₁ at_ →
      read text' pos = second at_.rest at_.pos) :
    ReadsTo read found (SameFront rest) text rest := by
  obtain ⟨spelling, rfl, h₁⟩ := h₁
  obtain ⟨spelling', rfl, h₂⟩ := h₂
  refine ⟨spelling ++ spelling', (List.append_assoc ..).symm, fun rest' pos hfront => ?_⟩
  have hmid := hfront.append spelling'
  rw [List.append_assoc, hread _ _ _ (hmid.append spelling) (h₁ _ _ hmid), h₂ _ _ hfront,
    byteLength_append, Nat.add_assoc]

theorem ReadsTo.congr (h : ReadsTo second found (SameFront rest) text rest)
    (heq : ∀ text' pos, SameFront text text' → read text' pos = second text' pos) :
    ReadsTo read found (SameFront rest) text rest := by
  obtain ⟨spelling, rfl, h⟩ := h
  exact ⟨spelling, rfl, fun rest' pos hfront =>
    (heq _ _ (hfront.append spelling)).trans (h _ _ hfront)⟩

def NoFront (p : Char → Bool) (text : List Char) : Prop := ∀ c, text.head? = some c → p c = false

theorem SameFront.noFront {p : Char → Bool} {rest' : List Char} (h : SameFront rest rest')
    (hp : ∀ c, IsQuote c → p c = false) (hrest : NoFront p rest) : NoFront p rest' := by
  cases h with
  | nil | same => exact hrest
  | quote =>
    rintro _ ⟨⟩
    exact hp '"' (.inl rfl)

theorem takeWhile_stop {p : Char → Bool} (hrest : NoFront p rest) (taken : List Char) (pos : Nat) :
    Cursor.takeWhile p taken rest pos = (taken, ⟨rest, pos⟩) := by
  cases rest with
  | nil => rfl
  | cons c more =>
    rw [Cursor.takeWhile, hrest c rfl]
    rfl

theorem takeWhile_spelling {p : Char → Bool} {taken taken' : List Char} {pos stop : Nat}
    (h : Cursor.takeWhile p taken text pos = (taken', ⟨rest, stop⟩)) :
    ∃ spelling, text = spelling ++ rest ∧ (∀ c ∈ spelling, p c = true) ∧ NoFront p rest ∧
      ∀ rest' pos, NoFront p rest' → Cursor.takeWhile p taken (spelling ++ rest') pos =
        (taken', ⟨rest', pos + byteLength spelling⟩) := by
  induction text generalizing taken pos with
  | nil =>
    cases h
    exact ⟨[], rfl, nofun, nofun, fun _ _ hrest => takeWhile_stop hrest _ _⟩
  | cons c text ih =>
    rw [Cursor.takeWhile] at h
    split at h
    · next hc =>
      obtain ⟨spelling, rfl, hall, hfree, hread⟩ := ih h
      refine ⟨c :: spelling, rfl, List.forall_mem_cons.2 ⟨hc, hall⟩, hfree, ?_⟩
      intro rest' pos hrest
      rw [List.cons_append, Cursor.takeWhile, if_pos hc, hread _ _ hrest, byteLength_cons,
        Nat.add_assoc]
    · next hc =>
      cases h
      refine ⟨[], rfl, nofun, ?_, fun _ _ hrest => takeWhile_stop hrest _ _⟩
      rintro _ ⟨⟩
      exact eq_false_of_ne_true hc

end Readers

namespace Number

/-- A reader of a part of a number that looks one sign ahead. -/
def NearSighted (read : List Char → Nat → Cursor × Bool) : Prop :=
  ∀ ⦃text pos rest stop⦄, read text pos = (⟨rest, stop⟩, true) →
    ReadsTo read (·, true) (SameFront rest) text rest

/-- A class of signs that digits are of: they are single bytes, and no quotes. -/
structure Digital (p : Char → Bool) : Prop where
  size : ∀ c, p c = true → c.utf8Size = 1
  quote : ∀ c, IsQuote c → p c = false

variable {p : Char → Bool}

theorem nearSighted_digitsTail (hp : Digital p) : NearSighted (digitsTail p) := by
  intro text
  induction text with
  | nil =>
    rintro pos _ _ ⟨⟩
    exact .stop fun _ _ hfront => by cases hfront; rfl
  | cons c text ih =>
    intro pos rest stop h
    rw [digitsTail] at h
    split at h
    · next hc =>
      exact (ih h).step fun text' pos _ => by rw [digitsTail, if_pos hc, hp.size c hc]
    split at h
    · next hother hc =>
      split at h
      · next hhead =>
        obtain rfl : c = '_' := by simpa using hc
        refine (ih h).step fun text' pos hfront => ?_
        rw [digitsTail, if_neg hother, if_pos hc, if_pos (hfront.any hp.quote ▸ hhead)]
        rfl
      · cases h
    · next hother hc =>
      cases h
      refine .stop fun rest' pos hfront => ?_
      cases hfront with
      | same => rw [digitsTail, if_neg hother, if_neg hc]
      | quote hquote => rw [digitsTail, hp.quote '"' (.inl rfl)]; rfl

theorem nearSighted_digits (hp : Digital p) : NearSighted (digits p) := by
  intro text pos rest stop h
  rw [digits] at h
  split at h
  · next hhead =>
    obtain ⟨spelling, rfl, hread⟩ := nearSighted_digitsTail hp h
    refine ⟨spelling, rfl, fun rest' pos hfront => ?_⟩
    rw [digits, if_pos ((hfront.append spelling).any hp.quote ▸ hhead), hread _ _ hfront]
  · cases h

theorem digital_isDigit : Digital Char.isDigit where
  size _ := utf8Size_digit
  quote := by
    rintro _ (rfl | rfl) <;> rfl

theorem digital_isHexDigit : Digital isHexDigit where
  size c hc := by
    simp only [isHexDigit, hexDigit?] at hc
    split at hc
    · next h => exact utf8Size_of_le (d := '9') (by simp_all) (by decide)
    split at hc
    · next h => exact utf8Size_of_le (d := 'f') (by simp_all) (by decide)
    split at hc
    · next h => exact utf8Size_of_le (d := 'F') (by simp_all) (by decide)
    · cases hc
  quote := by
    rintro _ (rfl | rfl) <;> rfl

theorem digital_isOctalDigit : Digital isOctalDigit where
  size c hc := by
    simp only [isOctalDigit, Bool.and_eq_true, decide_eq_true_eq] at hc
    exact utf8Size_of_le (d := '7') hc.2 (by decide)
  quote := by
    rintro _ (rfl | rfl) <;> rfl

theorem digital_isBinaryDigit : Digital isBinaryDigit where
  size c hc := by
    simp only [isBinaryDigit, Bool.or_eq_true, beq_iff_eq] at hc
    rcases hc with rfl | rfl <;> rfl
  quote := by
    rintro _ (rfl | rfl) <;> rfl

section Exponent

variable {e s : Char} {text : List Char}

theorem exponent_other (he : ¬ (e = 'e' ∨ e = 'E')) (text : List Char) (pos : Nat) :
    exponent ⟨e :: text, pos⟩ = (⟨e :: text, pos⟩, true) := by
  simp [exponent, he]

theorem exponent_signed (he : e = 'e' ∨ e = 'E') (hs : s = '+' ∨ s = '-') (text : List Char)
    (pos : Nat) : exponent ⟨e :: s :: text, pos⟩ = digits Char.isDigit text (pos + 2) := by
  simp [exponent, he, hs]

theorem exponent_plain (he : e = 'e' ∨ e = 'E') (hs : ¬ (s = '+' ∨ s = '-')) (text : List Char)
    (pos : Nat) : exponent ⟨e :: s :: text, pos⟩ = digits Char.isDigit (s :: text) (pos + 1) := by
  simp [exponent, he, hs]

theorem nearSighted_exponent : NearSighted fun text pos => exponent ⟨text, pos⟩ := by
  intro text pos rest stop h
  cases text with
  | nil =>
    cases h
    exact .stop fun _ _ hfront => by cases hfront; rfl
  | cons e text =>
    by_cases he : e = 'e' ∨ e = 'E'
    · have hsize : e.utf8Size = 1 := by rcases he with rfl | rfl <;> rfl
      cases text with
      | nil => rcases he with rfl | rfl <;> cases h
      | cons s more =>
        by_cases hs : s = '+' ∨ s = '-'
        · have hsign : s.utf8Size = 1 := by rcases hs with rfl | rfl <;> rfl
          simp only [exponent_signed he hs] at h
          obtain ⟨spelling, rfl, hread⟩ := nearSighted_digits digital_isDigit h
          refine ⟨e :: s :: spelling, rfl, fun rest' pos hfront => ?_⟩
          simp only [List.cons_append, exponent_signed he hs, hread _ _ hfront, byteLength_cons,
            hsize, hsign]
          congr 2
          omega
        · simp only [exponent_plain he hs] at h
          refine (nearSighted_digits digital_isDigit h).step fun text' pos hfront => ?_
          cases hfront with
          | same => rw [exponent_plain he hs, hsize]
          | quote => rw [exponent_plain he (by decide), hsize]
    · simp only [exponent_other he] at h
      cases h
      refine .stop fun rest' pos hfront => ?_
      cases hfront with
      | same => exact exponent_other he _ _
      | quote => exact exponent_other (by decide) _ _

end Exponent

theorem NearSighted.andThen {read : List Char → Nat → Cursor × Bool}
    {more : Cursor → Cursor × Bool} (h : NearSighted read)
    (hmore : NearSighted fun text pos => more ⟨text, pos⟩) :
    NearSighted fun text pos =>
      let part := read text pos
      if part.2 then more part.1 else part := by
  intro text pos rest stop hwhole
  rcases hpart : read text pos with ⟨⟨mid, stop₁⟩, ok⟩
  simp only [hpart] at hwhole
  cases ok with
  | false => cases hwhole
  | true =>
    refine (h hpart).seq (hmore hwhole) fun text' pos at_ _ hfirst => ?_
    simp only [hfirst]
    rfl

theorem nearSighted_fraction : NearSighted fraction := by
  refine NearSighted.andThen (fun text pos rest stop h => ?_) nearSighted_exponent
  by_cases hdigit : text.head?.any Char.isDigit = true
  · rw [if_pos hdigit] at h
    obtain ⟨spelling, rfl, hread⟩ := nearSighted_digitsTail digital_isDigit h
    refine ⟨spelling, rfl, fun rest' pos hfront => ?_⟩
    have hdigit' : (spelling ++ rest').head?.any Char.isDigit = true := by
      rwa [(hfront.append spelling).any digital_isDigit.quote]
    exact (if_pos hdigit').trans (hread _ _ hfront)
  · rw [if_neg hdigit] at h
    cases h
    refine .stop fun rest' pos hfront => if_neg ?_
    rwa [hfront.any digital_isDigit.quote]

theorem nearSighted_bigMark : NearSighted fun text pos => bigMark ⟨text, pos⟩ := by
  intro text pos rest stop h
  by_cases hn : ∃ more, text = 'n' :: more
  · obtain ⟨more, rfl⟩ := hn
    cases h
    exact ⟨['n'], rfl, fun _ _ _ => rfl⟩
  · have hother (text' : List Char) (pos : Nat) (hfront : SameFront text text') :
        bigMark ⟨text', pos⟩ = (⟨text', pos⟩, true) := by
      rw [bigMark]
      split
      · next heq =>
        subst heq
        cases hfront
        exact absurd ⟨_, rfl⟩ hn
      · rfl
    simp only [hother text pos (.refl text)] at h
    cases h
    exact .stop hother

def pointed (text : List Char) (pos : Nat) : Cursor × Bool :=
  match text with
  | '.' :: rest => fraction rest (pos + 1)
  | _ => exponent ⟨text, pos⟩

theorem nearSighted_pointed : NearSighted pointed := by
  intro text pos rest stop h
  by_cases hpoint : ∃ more, text = '.' :: more
  · obtain ⟨more, rfl⟩ := hpoint
    exact (nearSighted_fraction h).step fun _ _ _ => rfl
  · have hother (text' : List Char) (pos : Nat) (hfront : SameFront text text') :
        pointed text' pos = exponent ⟨text', pos⟩ := by
      unfold pointed
      split
      · cases hfront
        exact absurd ⟨_, rfl⟩ hpoint
      · rfl
    rw [hother text pos (.refl text)] at h
    exact (nearSighted_exponent h).congr hother

theorem nearSighted_afterWhole : NearSighted fun text pos => afterWhole ⟨text, pos⟩ := by
  intro text pos rest stop h
  by_cases hn : ∃ more, text = 'n' :: more
  · obtain ⟨more, rfl⟩ := hn
    cases h
    exact ⟨['n'], rfl, fun _ _ _ => rfl⟩
  · have hother (text' : List Char) (pos : Nat) (hfront : SameFront text text') :
        afterWhole ⟨text', pos⟩ = pointed text' pos := by
      have hnot : ∀ more, text' ≠ 'n' :: more := by
        rintro more rfl
        cases hfront
        exact hn ⟨_, rfl⟩
      unfold afterWhole pointed
      split <;> split <;> simp_all
    simp only [hother text pos (.refl text)] at h
    exact (nearSighted_pointed h).congr hother

theorem nearSighted_based (hp : Digital p) : NearSighted (based p) :=
  (nearSighted_digits hp).andThen nearSighted_bigMark

theorem leadingZero_of_taken {text taken : List Char} {pos : Nat} {at_ : Cursor}
    (h : Cursor.takeWhile Char.isDigit [] text pos = (taken, at_)) : leadingZero text pos =
      if taken.all isOctalDigit then (at_, true) else pointed at_.rest at_.pos := by
  rw [leadingZero, h]
  rfl

theorem nearSighted_leadingZero : NearSighted leadingZero := by
  intro text pos rest stop h
  rcases htaken : Cursor.takeWhile Char.isDigit [] text pos with ⟨taken, ⟨mid, stop₁⟩⟩
  obtain ⟨spelling, hspelling, -, hfree, hread⟩ := takeWhile_spelling htaken
  have hfirst : ReadsTo (Cursor.takeWhile Char.isDigit []) (taken, ·) (SameFront mid) text mid :=
    ⟨spelling, hspelling, fun _ _ hfront =>
      hread _ _ (hfront.noFront digital_isDigit.quote hfree)⟩
  rw [leadingZero_of_taken htaken] at h
  by_cases hoctal : taken.all isOctalDigit = true
  · rw [if_pos hoctal] at h
    cases h
    have hend : ReadsTo (fun text pos => ((⟨text, pos⟩, true) : Cursor × Bool)) (·, true)
        (SameFront rest) rest rest := .stop fun _ _ _ => rfl
    refine hfirst.seq hend fun text' pos at_ _ hread => ?_
    rw [leadingZero_of_taken hread, if_pos hoctal]
  · rw [if_neg hoctal] at h
    refine hfirst.seq (nearSighted_pointed h) fun text' pos at_ _ hread => ?_
    rw [leadingZero_of_taken hread, if_neg hoctal]

def baseLetters : List Char := ['x', 'X', 'o', 'O', 'b', 'B']

theorem readUnended_zero {d : Char} (hd : d ∉ baseLetters) (more : List Char) (pos : Nat) :
    readUnended '0' (d :: more) pos =
      if d.isDigit then leadingZero (d :: more) pos else afterWhole ⟨d :: more, pos⟩ := by
  simp only [baseLetters, List.mem_cons, List.not_mem_nil, or_false, not_or] at hd
  simp [readUnended, hd]

theorem nearSighted_readUnended_zero : NearSighted (readUnended '0') := by
  intro text pos rest stop h
  cases text with
  | nil =>
    cases h
    exact .stop fun _ _ hfront => by cases hfront; rfl
  | cons d more =>
    by_cases hd : d ∈ baseLetters
    · simp only [baseLetters, List.mem_cons, List.not_mem_nil, or_false] at hd
      rcases hd with rfl | rfl | rfl | rfl | rfl | rfl
      · exact (nearSighted_based digital_isHexDigit h).step fun _ _ _ => rfl
      · exact (nearSighted_based digital_isHexDigit h).step fun _ _ _ => rfl
      · exact (nearSighted_based digital_isOctalDigit h).step fun _ _ _ => rfl
      · exact (nearSighted_based digital_isOctalDigit h).step fun _ _ _ => rfl
      · exact (nearSighted_based digital_isBinaryDigit h).step fun _ _ _ => rfl
      · exact (nearSighted_based digital_isBinaryDigit h).step fun _ _ _ => rfl
    · rw [readUnended_zero hd] at h
      split at h
      · next hdigit =>
        refine (nearSighted_leadingZero h).congr fun text' pos hfront => ?_
        cases hfront with
        | same => rw [readUnended_zero hd, if_pos hdigit]
        | quote hquote =>
          rw [digital_isDigit.quote d hquote] at hdigit
          cases hdigit
      · next hdigit =>
        refine (nearSighted_afterWhole h).congr fun text' pos hfront => ?_
        cases hfront with
        | same => rw [readUnended_zero hd, if_neg hdigit]
        | quote => exact readUnended_zero (by decide) _ _

theorem nearSighted_readUnended (c : Char) : NearSighted (readUnended c) := by
  by_cases hpoint : c = '.'
  · subst hpoint
    exact (nearSighted_digits digital_isDigit).andThen nearSighted_exponent
  by_cases hzero : c = '0'
  · subst hzero
    exact nearSighted_readUnended_zero
  · have hwhole : readUnended c = fun text pos =>
        let part := digitsTail Char.isDigit text pos
        if part.2 then afterWhole part.1 else part := by
      funext text pos
      simp [readUnended, hpoint, hzero]
    rw [hwhole]
    exact (nearSighted_digitsTail digital_isDigit).andThen nearSighted_afterWhole

theorem nearSighted_read (c : Char) : NearSighted (read c) := by
  intro text pos rest stop h
  rcases hunended : readUnended c text pos with ⟨⟨mid, stop₁⟩, ok⟩
  rw [read, hunended] at h
  obtain ⟨hcursor, hok⟩ := Prod.mk.injEq .. ▸ h
  cases hcursor
  obtain ⟨rfl, hend⟩ := Bool.and_eq_true_iff.1 hok
  obtain ⟨spelling, rfl, hread⟩ := nearSighted_readUnended c hunended
  refine ⟨spelling, rfl, fun rest' pos hfront => ?_⟩
  have hquote : ∀ c, IsQuote c → (isNameStart c || c.isDigit) = false := by
    rintro _ (rfl | rfl) <;> rfl
  simp only [read, hread _ _ hfront, hfront.any hquote, hend, Bool.and_self]

end Number

section Names

variable {text rest : List Char} {n pos stop : Nat}

theorem hexQuad?_spelling (h : hexQuad? text = some (n, rest)) :
    ∃ spelling, text = spelling ++ rest ∧ byteLength spelling = 4 ∧
      (∀ c ∈ spelling, isHexDigit c = true) ∧
      ∀ rest', hexQuad? (spelling ++ rest') = some (n, rest') := by
  unfold hexQuad? at h
  split at h
  · next a b c d more =>
    split at h
    · next hall =>
      cases h
      have hdigits := List.all_eq_true.1 hall
      have hsize (e : Char) (he : e ∈ [a, b, c, d]) : e.utf8Size = 1 :=
        Number.digital_isHexDigit.size e (hdigits e he)
      refine ⟨[a, b, c, d], rfl, ?_, hdigits, fun rest' => if_pos hall⟩
      simp [hsize]
    · cases h
  · cases h

def InCodePoint (c : Char) : Prop := isHexDigit c = true ∨ c = '\x7b' ∨ c = '\x7d'

theorem bracedCodePoint?_spelling (h : bracedCodePoint? text pos = some (n, ⟨rest, stop⟩)) :
    ∃ spelling, text = spelling ++ rest ∧ (∀ c ∈ spelling, InCodePoint c) ∧
      ∀ rest' pos, bracedCodePoint? (spelling ++ rest') pos =
        some (n, ⟨rest', pos + byteLength spelling⟩) := by
  rcases htaken : Cursor.takeWhile isHexDigit [] text pos with ⟨_ | ⟨digit, digits⟩, ⟨mid, stop₁⟩⟩
  · rw [bracedCodePoint?, htaken] at h
    cases h
  · obtain ⟨spelling, rfl, hall, -, hread⟩ := takeWhile_spelling htaken
    unfold bracedCodePoint? at h
    rw [htaken] at h
    split at h
    · next heq => cases heq
    · next heq =>
      cases heq
      dsimp only at h
      split at h
      · next hn =>
        cases h
        refine ⟨spelling ++ ['\x7d'], by simp, ?_, fun rest' pos => ?_⟩
        · intro c hc
          rcases List.mem_append.1 hc with hc | hc
          · exact .inl (hall c hc)
          · exact .inr (.inr (List.mem_singleton.1 hc))
        · have hfree : NoFront isHexDigit (['\x7d'] ++ rest') := by
            rintro _ ⟨⟩
            rfl
          have hsize : Char.utf8Size '\x7d' = 1 := rfl
          rw [List.append_assoc, bracedCodePoint?, hread _ _ hfree]
          rw [List.reverse_cons] at hn
          simp [hn, hsize, Nat.add_assoc]
      · cases h
    · cases h

theorem codePoint?_plain (h : text.head? ≠ some '\x7b') (pos : Nat) :
    codePoint? text pos = (hexQuad? text).map fun (n, rest) => (n, ⟨rest, pos + 4⟩) := by
  unfold codePoint?
  split
  · exact absurd rfl h
  · rfl

theorem codePoint?_spelling (h : codePoint? text pos = some (n, ⟨rest, stop⟩)) :
    ∃ spelling, text = spelling ++ rest ∧ (∀ c ∈ spelling, InCodePoint c) ∧
      ∀ rest' pos, codePoint? (spelling ++ rest') pos =
        some (n, ⟨rest', pos + byteLength spelling⟩) := by
  by_cases hbrace : text.head? = some '\x7b'
  · obtain ⟨more, rfl⟩ : ∃ more, text = '\x7b' :: more := List.head?_eq_some_iff.1 hbrace
    obtain ⟨spelling, rfl, hin, hread⟩ := bracedCodePoint?_spelling h
    refine ⟨'\x7b' :: spelling, rfl, List.forall_mem_cons.2 ⟨.inr (.inl rfl), hin⟩, ?_⟩
    intro rest' pos
    rw [byteLength_cons, ← Nat.add_assoc]
    exact hread rest' (pos + 1)
  · rw [codePoint?_plain hbrace] at h
    obtain ⟨⟨n, mid⟩, hquad, heq⟩ := Option.map_eq_some_iff.1 h
    cases heq
    obtain ⟨spelling, rfl, hlength, hdigits, hread⟩ := hexQuad?_spelling hquad
    refine ⟨spelling, rfl, fun c hc => .inl (hdigits c hc), fun rest' pos => ?_⟩
    have hplain : (spelling ++ rest').head? ≠ some '\x7b' := by
      cases spelling with
      | nil => cases hlength
      | cons c more =>
        rintro ⟨⟩
        exact absurd (hdigits _ List.mem_cons_self) (by decide)
    rw [codePoint?_plain hplain, hread, hlength]
    rfl

variable {taken taken' bound : List Char} {escaped escaped' ok : Bool}

def mayContinue (taken : List Char) (n : Nat) : Bool :=
  match TextUnit.ofNat n with
  | .char c => if taken.isEmpty then isNameStart c else isNamePart c
  | .surrogate _ => false

theorem readName_part {c : Char} (hpart : isNamePart c = true) (hescape : c ≠ '\\') (b : Char)
    (bound rest : List Char) (pos : Nat) : readName (b :: bound) ⟨c :: rest, pos⟩ taken escaped ok =
      readName bound ⟨rest, pos + c.utf8Size⟩ (c :: taken) escaped ok := by
  simp [readName, hescape, hpart]

theorem readName_escape {more : List Char} {next : Cursor} {pos : Nat}
    (h : codePoint? more (pos + 2) = some (n, next)) (b : Char) (bound : List Char) :
    readName (b :: bound) ⟨'\\' :: 'u' :: more, pos⟩ taken escaped ok =
      readName bound next (Char.ofNat n :: taken) true (ok && mayContinue taken n) := by
  simp only [readName, h]
  rfl

/-- A name without faults is read again in front of each text that does not go on with it. -/
theorem readName_spelling (hbound : text.length ≤ bound.length)
    (h : readName bound ⟨text, pos⟩ taken escaped ok = (taken', ⟨rest, stop⟩, escaped', true)) :
    ok = true ∧ NoNamePart rest ∧ ∃ spelling, text = spelling ++ rest ∧
      ∀ (bound rest' : List Char) pos, (spelling ++ rest').length ≤ bound.length →
        NoNamePart rest' → readName bound ⟨spelling ++ rest', pos⟩ taken escaped ok =
          (taken', ⟨rest', pos + byteLength spelling⟩, escaped', true) := by
  induction bound generalizing text pos taken escaped ok with
  | nil =>
    obtain rfl := List.eq_nil_of_length_eq_zero (Nat.le_zero.1 hbound)
    cases h
    exact ⟨rfl, nofun, [], rfl, fun _ _ _ _ hrest => readName_stop hrest ..⟩
  | cons b bound ih =>
    cases text with
    | nil =>
      cases h
      exact ⟨rfl, nofun, [], rfl, fun _ _ _ _ hrest => readName_stop hrest ..⟩
    | cons c text =>
      by_cases hescape : c = '\\'
      · subst hescape
        cases text with
        | nil => cases h
        | cons u more =>
          by_cases hu : u = 'u'
          · subst hu
            rcases hcode : codePoint? more (pos + 2) with _ | ⟨n, mid, stop₁⟩
            · simp [readName, hcode] at h
            · rw [readName_escape hcode] at h
              obtain ⟨code, rfl, -, hagain⟩ := codePoint?_spelling hcode
              have hshort : mid.length ≤ bound.length := by
                simp only [List.length_cons, List.length_append] at hbound
                omega
              obtain ⟨hok, hend, spelling, rfl, hread⟩ := ih hshort h
              obtain ⟨hok, hcontinue⟩ := Bool.and_eq_true_iff.1 hok
              refine ⟨hok, hend, '\\' :: 'u' :: (code ++ spelling), by simp, ?_⟩
              intro bound' rest' pos hbound' hrest
              obtain ⟨b', bound', rfl⟩ : ∃ b' more, bound' = b' :: more :=
                List.exists_cons_of_length_pos (Nat.lt_of_lt_of_le (Nat.succ_pos _) hbound')
              simp only [List.length_cons, List.length_append, List.cons_append] at hbound'
              have hlong : (spelling ++ rest').length ≤ bound'.length := by
                rw [List.length_append]
                omega
              have hpos : pos + 2 + byteLength code + byteLength spelling =
                  pos + byteLength ('\\' :: 'u' :: (code ++ spelling)) := by
                have hsizes : Char.utf8Size '\\' = 1 ∧ Char.utf8Size 'u' = 1 := ⟨rfl, rfl⟩
                simp only [byteLength_cons, byteLength_append]
                omega
              rw [List.cons_append, List.cons_append, List.append_assoc,
                readName_escape (hagain _ _), hread _ _ _ hlong hrest, hpos]
          · simp [readName, hu] at h
      · by_cases hpart : isNamePart c = true
        · rw [readName_part hpart hescape] at h
          obtain ⟨hok, hend, spelling, rfl, hread⟩ := ih (Nat.le_of_succ_le_succ hbound) h
          refine ⟨hok, hend, c :: spelling, rfl, fun bound' rest' pos hbound' hrest => ?_⟩
          obtain ⟨b', bound', rfl⟩ : ∃ b' more, bound' = b' :: more :=
            List.exists_cons_of_length_pos (Nat.lt_of_lt_of_le (Nat.succ_pos _) hbound')
          rw [List.cons_append, readName_part hpart hescape,
            hread _ _ _ (Nat.le_of_succ_le_succ hbound') hrest, byteLength_cons, Nat.add_assoc]
        · have hstop : NoNamePart (c :: text) := by
            rintro _ ⟨⟩
            exact ⟨eq_false_of_ne_true hpart, hescape⟩
          rw [readName_stop hstop] at h
          cases h
          exact ⟨rfl, hstop, [], rfl, fun _ _ _ _ hrest => readName_stop hrest ..⟩

end Names

end ModuleBundler.Script
