import ModuleBundler.Proofs.Script.Again

/-! A token is read again in front of each text that begins alike, if no word runs into it. -/
namespace ModuleBundler.Script

open Lexer

/-- Kinds of tokens that would take in a word behind them. -/
def TokenKind.runsOn : TokenKind → Bool
  | .name | .keyword _ | .privateName | .number | .regexp => true
  | _ => false

namespace Token

/-- No word stands behind a token that would take it in. -/
def Apart (t : Token) : Prop := t.kind.runsOn = true → NoWord t.rest

def placed (t : Token) (spelling rest : List Char) (pos : Nat) : Token :=
  { t with span := ⟨pos, pos + byteLength spelling⟩, here := spelling ++ rest, rest }

end Token

/-- A text behind a sign is read as a token up to its rest, wherever the sign stands before a text
like that. -/
def ReadAgain (read : List Char → Nat → Lexeme) (c : Char) (text : List Char) (t : Token) : Prop :=
  ∃ spelling, text = spelling ++ t.rest ∧ ∀ rest' pos, Alike t.rest rest' →
    read (spelling ++ rest') pos = sound (t.placed (c :: spelling) rest' pos)

section Readers

variable {c q : Char} {text rest rest' : List Char} {pos : Nat} {broken ok : Bool} {cause : Cause}
  {t t' : Token} {read read' : List Char → Nat → Lexeme}

theorem checked_eq_sound : checked t ok cause = sound t' ↔ ok = true ∧ t = t' := by
  cases ok <;> simp [checked, sound]

theorem sound_inj : sound t = sound t' ↔ t = t' := by
  simp [sound]

theorem Alike.noWord (h : Alike rest rest') (hrest : NoWord rest) : NoWord rest' := by
  cases h with
  | nil | same => exact hrest
  | word hc => exact absurd hc (hrest _ rfl)
  | quote =>
    rintro _ ⟨⟩
    decide

theorem Alike.noNamePart (h : Alike rest rest') (hword : NoWord rest) (hrest : NoNamePart rest) :
    NoNamePart rest' := by
  cases h with
  | nil | same => exact hrest
  | word hc => exact absurd hc (hword _ rfl)
  | quote =>
    rintro _ ⟨⟩
    decide

theorem readName_again {taken : List Char} {after : Cursor} {escaped : Bool}
    (h : readName text ⟨text, pos⟩ [] false true = (taken, after, escaped, true))
    (htaken : taken ≠ []) (hword : NoWord after.rest) : ∃ spelling, spelling ≠ [] ∧
      text = spelling ++ after.rest ∧ ∀ rest' pos, Alike after.rest rest' →
        readName (spelling ++ rest') ⟨spelling ++ rest', pos⟩ [] false true =
          (taken, ⟨rest', pos + byteLength spelling⟩, escaped, true) := by
  obtain ⟨rest, stop⟩ := after
  obtain ⟨-, hend, spelling, rfl, hagain⟩ := readName_spelling (Nat.le_refl _) h
  refine ⟨spelling, ?_, rfl, fun rest' pos halike => ?_⟩
  · rintro rfl
    have hnone := hagain [] [] 0 (Nat.le_refl _) nofun
    cases hnone
    exact htaken rfl
  · exact hagain _ rest' pos (Nat.le_refl _) (halike.noNamePart hword hend)

def wordKind (word : List Char) : TokenKind :=
  match Keyword.ofChars? word with
  | some k => .keyword k
  | none => .name

theorem name_of_read {at_ after : Cursor} {taken : List Char} {escaped : Bool} (htaken : taken ≠ [])
    (h : readName at_.rest at_ [] false true = (taken, after, escaped, true)) :
    name broken at_ = sound { token (wordKind taken.reverse) broken at_ after with
      escaped, text := taken.reverse } := by
  have hok : (true && !taken.reverse.isEmpty) = true := by simpa using htaken
  simp only [name, h, hok]
  rfl

theorem name_eq_sound {at_ : Cursor} (h : name broken at_ = sound t) :
    ∃ taken after escaped, taken ≠ [] ∧
      readName at_.rest at_ [] false true = (taken, after, escaped, true) := by
  rcases hread : readName at_.rest at_ [] false true with ⟨taken, after, escaped, ok⟩
  simp only [name, hread, checked_eq_sound, Bool.and_eq_true] at h
  obtain ⟨⟨rfl, htaken⟩, -⟩ := h
  refine ⟨taken, after, escaped, ?_, rfl⟩
  rintro rfl
  cases htaken

theorem name_ends {at_ : Cursor} (h : name broken at_ = sound t) : NoNamePart t.rest := by
  obtain ⟨taken, ⟨rest, stop⟩, escaped, htaken, hread⟩ := name_eq_sound h
  obtain rfl := sound_inj.1 (h.symm.trans (name_of_read htaken hread))
  exact (readName_spelling (Nat.le_refl _) hread).2.1

theorem runsOn_wordKind (word : List Char) : (wordKind word).runsOn = true := by
  unfold wordKind
  split <;> rfl

theorem name_again (h : name broken ⟨c :: text, pos⟩ = sound t) (hapart : t.Apart) :
    ReadAgain (fun text pos => name broken ⟨c :: text, pos⟩) c text t := by
  obtain ⟨taken, after, escaped, htaken, hread⟩ := name_eq_sound h
  obtain rfl := sound_inj.1 (h.symm.trans (name_of_read htaken hread))
  obtain ⟨spelling, hspelling, htext, hagain⟩ :=
    readName_again hread htaken (hapart (runsOn_wordKind _))
  obtain ⟨c, spelling, rfl⟩ := List.exists_cons_of_ne_nil hspelling
  cases htext
  refine ⟨spelling, rfl, fun rest' pos halike => ?_⟩
  have hname : name broken ⟨c :: (spelling ++ rest'), pos⟩ = _ :=
    name_of_read htaken (hagain rest' pos halike)
  exact hname

theorem privateName_again (hsize : c.utf8Size = 1)
    (h : privateName broken ⟨c :: text, pos⟩ text = sound t) (hapart : t.Apart) :
    ReadAgain (fun text pos => privateName broken ⟨c :: text, pos⟩ text) c text t := by
  cases text with
  | nil => cases h
  | cons d more =>
    rcases hread : readName (d :: more) ⟨d :: more, pos + 1⟩ [] false true with
      ⟨taken, after, escaped, ok⟩
    simp only [privateName, hread] at h
    split at h
    · next hbegins =>
      obtain ⟨hok, rfl⟩ := checked_eq_sound.1 h
      obtain ⟨rfl, htaken⟩ := Bool.and_eq_true_iff.1 hok
      have hne : taken ≠ [] := by
        rintro rfl
        cases htaken
      obtain ⟨spelling, hspelling, hmore, hagain⟩ := readName_again hread hne (hapart rfl)
      obtain ⟨d, spelling, rfl⟩ := List.exists_cons_of_ne_nil hspelling
      cases hmore
      refine ⟨d :: spelling, rfl, fun rest' pos halike => ?_⟩
      have hread' := hagain rest' (pos + 1) halike
      simp only [privateName, List.cons_append] at hread' ⊢
      simp [hbegins, hread', checked, hne, sound, token, Token.placed, hsize, Nat.add_assoc]
    · cases h

theorem string_again (hq : IsQuote q) (h : string broken ⟨q :: text, pos⟩ q text = sound t) :
    ReadAgain (fun text pos => string broken ⟨q :: text, pos⟩ q text) q text t := by
  rcases hread : readString q (q :: text) ⟨text, pos + 1⟩ [] true with
    ⟨units, ⟨rest, stop⟩, closed, ok⟩
  simp only [string, hread] at h
  split at h
  · next hclosed =>
    obtain rfl : closed = true := hclosed
    obtain ⟨hok, rfl⟩ := checked_eq_sound.1 h
    obtain rfl : ok = true := hok
    obtain ⟨body, rfl, hagain⟩ := readString_closed hq hread
    refine ⟨body ++ [q], by simp [token], fun rest' pos halike => ?_⟩
    have hsize : q.utf8Size = 1 := by rcases hq with rfl | rfl <;> rfl
    have hbound : body.length < (q :: (body ++ q :: rest')).length := by
      rw [List.length_cons, List.length_append]
      omega
    have hread' := hagain (q :: (body ++ q :: rest')) rest' (pos + 1) hbound
    simp only [List.cons_append, List.append_assoc, List.nil_append, string, hread']
    simp [checked, sound, token, Token.placed, hsize, Nat.add_assoc]
  · cases h

theorem template_again {opening : Bool} (hsize : c.utf8Size = 1)
    (h : template opening broken ⟨c :: text, pos⟩ text = sound t) :
    ReadAgain (fun text pos => template opening broken ⟨c :: text, pos⟩ text) c text t := by
  rcases hread : readPiece (c :: text) ⟨text, pos + 1⟩ true with ⟨ending, ⟨rest, stop⟩, ok⟩
  simp only [template, hread] at h
  obtain ⟨hend, rfl⟩ := checked_eq_sound.1 h
  obtain ⟨body, rfl, hagain⟩ := readPiece_closed hread (by simpa using hend)
  refine ⟨body ++ ending.sign, by simp [token], fun rest' pos halike => ?_⟩
  have hbound : body.length < (c :: (body ++ (ending.sign ++ rest'))).length := by
    rw [List.length_cons, List.length_append]
    omega
  have hread' := hagain (c :: (body ++ (ending.sign ++ rest'))) rest' (pos + 1) hbound
  simp only [List.append_assoc, template, hread']
  simp [checked, hend, sound, token, Token.placed, hsize, Nat.add_assoc]

def number (broken : Bool) (at_ : Cursor) (first : Char) (rest : List Char) : Lexeme :=
  let (after, ok) := Number.read first rest (at_.pos + 1)
  checked (token .number broken at_ after) ok .badNumber

theorem number_again (hsize : c.utf8Size = 1)
    (h : number broken ⟨c :: text, pos⟩ c text = sound t) (hapart : t.Apart) :
    ReadAgain (fun text pos => number broken ⟨c :: text, pos⟩ c text) c text t := by
  rcases hread : Number.read c text (pos + 1) with ⟨⟨rest, stop⟩, ok⟩
  simp only [number, hread] at h
  obtain ⟨rfl, rfl⟩ := checked_eq_sound.1 h
  obtain ⟨spelling, rfl, hagain⟩ := Number.nearSighted_read c hread
  refine ⟨spelling, rfl, fun rest' pos halike => ?_⟩
  have hread' := hagain rest' (pos + 1) (halike.sameFront (hapart rfl))
  simp only [number, hread']
  simp [checked, sound, token, Token.placed, hsize, Nat.add_assoc]

def mark (broken : Bool) (at_ : Cursor) (first : Char) (rest : List Char) : Lexeme :=
  match mark? first rest with
  | some (m, more) => sound (token (.mark m) broken at_ ⟨rest.drop more, at_.pos + 1 + more⟩)
  | none => ⟨token .unknown broken at_ ⟨rest, at_.pos + first.utf8Size⟩, some .unknownCharacter⟩

theorem mark_again (h : mark broken ⟨c :: text, pos⟩ c text = sound t) :
    ReadAgain (fun text pos => mark broken ⟨c :: text, pos⟩ c text) c text t := by
  unfold mark at h
  split at h
  · next m more hmark =>
    obtain rfl := sound_inj.1 h
    obtain ⟨hlength, hsize⟩ := mark?_size hmark
    refine ⟨text.take more, by simp [token], fun rest' pos halike => ?_⟩
    have hmark' := (mark?_alike (halike.append (text.take more)) c).symm
    rw [show (token _ _ _ _).rest = text.drop more from rfl, List.take_append_drop, hmark] at hmark'
    simp only [mark, ← hmark']
    simp [token, Token.placed, hsize, sound, hlength, Nat.add_assoc]
  · cases h

theorem tokenAt_cons (broken : Bool) (c : Char) (text : List Char) (pos : Nat) :
    tokenAt broken ⟨c :: text, pos⟩ =
      if BeginsWord c then name broken ⟨c :: text, pos⟩
      else if IsQuote c then string broken ⟨c :: text, pos⟩ c text
      else if c = '\x60' then template true broken ⟨c :: text, pos⟩ text
      else if c = '#' then privateName broken ⟨c :: text, pos⟩ text
      else if c.isDigit ∨ c = '.' ∧ text.head?.any Char.isDigit then
        number broken ⟨c :: text, pos⟩ c text
      else mark broken ⟨c :: text, pos⟩ c text := by
  simp [tokenAt, BeginsWord, IsQuote, number, mark]
  rfl

theorem ReadAgain.congr (h : ReadAgain read c text t)
    (hread : ∀ text' pos, Alike text text' → read' text' pos = read text' pos) :
    ReadAgain read' c text t := by
  obtain ⟨spelling, rfl, hagain⟩ := h
  exact ⟨spelling, rfl, fun rest' pos halike =>
    (hread _ _ (halike.append spelling)).trans (hagain rest' pos halike)⟩

/-- A token without faults is read again in front of each text that begins alike. -/
theorem tokenAt_again (h : tokenAt broken ⟨c :: text, pos⟩ = sound t) (hapart : t.Apart) :
    ReadAgain (fun text pos => tokenAt broken ⟨c :: text, pos⟩) c text t := by
  rw [tokenAt_cons] at h
  simp only [tokenAt_cons]
  split at h
  · next hword =>
    exact (name_again h hapart).congr fun _ _ _ => if_pos hword
  split at h
  · next hword hquote =>
    refine (string_again hquote h).congr fun _ _ _ => ?_
    rw [if_neg hword, if_pos hquote]
  split at h
  · next hword hquote hopen =>
    subst hopen
    exact (template_again rfl h).congr fun _ _ _ => rfl
  split at h
  · next hword hquote hopen hprivate =>
    subst hprivate
    exact (privateName_again rfl h hapart).congr fun _ _ _ => rfl
  have hdigit (text' : List Char) (halike : Alike text text') :
      text'.head?.any Char.isDigit = text.head?.any Char.isDigit :=
    halike.any inner_isDigit
  split at h
  · next hword hquote hopen hprivate hnumber =>
    have hsize : c.utf8Size = 1 := by
      rcases hnumber with hnumber | ⟨rfl, -⟩
      · exact utf8Size_digit hnumber
      · rfl
    refine (number_again hsize h hapart).congr fun text' _ halike => ?_
    rw [if_neg hword, if_neg hquote, if_neg hopen, if_neg hprivate, hdigit text' halike,
      if_pos hnumber]
  · next hword hquote hopen hprivate hnumber =>
    refine (mark_again h).congr fun text' _ halike => ?_
    rw [if_neg hword, if_neg hquote, if_neg hopen, if_neg hprivate, hdigit text' halike,
      if_neg hnumber]

theorem front_of_tokenAt (h : tokenAt broken ⟨c :: text, pos⟩ = sound t) :
    (t.isWord = true → BeginsWord c ∧ NoNamePart t.rest) ∧ (t.isString = true → IsQuote c) := by
  have ht : (tokenAt broken ⟨c :: text, pos⟩).token = t := congrArg Lexeme.token h
  rw [tokenAt_cons] at h ht
  split at ht
  · next hword =>
    rw [if_pos hword] at h
    refine ⟨fun _ => ⟨hword, name_ends h⟩, fun hstring => ?_⟩
    obtain ⟨taken, after, escaped, htaken, hread⟩ := name_eq_sound h
    rw [← ht, name_of_read htaken hread] at hstring
    have hkind := runsOn_wordKind taken.reverse
    simp only [Token.isString, sound, token] at hstring
    split at hstring
    · next heq =>
      rw [heq] at hkind
      cases hkind
    · cases hstring
  split at ht
  · next hquote =>
    refine ⟨fun hword => ?_, fun _ => hquote⟩
    rw [← ht] at hword
    unfold string at hword
    dsimp only at hword
    split at hword <;> cases hword
  · have hneither : t.isWord = false ∧ t.isString = false := by
      rw [← ht]
      split
      · exact ⟨rfl, rfl⟩
      split
      · unfold privateName
        dsimp only
        split
        · split <;> exact ⟨rfl, rfl⟩
        · exact ⟨rfl, rfl⟩
      split
      · exact ⟨rfl, rfl⟩
      · unfold mark
        split <;> exact ⟨rfl, rfl⟩
    exact ⟨fun hword => absurd hword (by simp [hneither.1]),
      fun hstring => absurd hstring (by simp [hneither.2])⟩

end Readers

end ModuleBundler.Script
