import ModuleBundler.Proofs.Script.Token

/-! The manners in which the places of the grammar read a token. In each of them what is read is
read again in front of each text that goes on alike. -/
namespace ModuleBundler.Script

open Lexer

/-- The manners in which the places of the grammar read a token. Some take another token than the
plain one from where that begins. -/
inductive Manner where
  | plain
  /-- A regular expression, where a slash divides nothing. -/
  | regexp
  /-- What goes on with a template behind a substitution. -/
  | template
  /-- A word with dashes in it. -/
  | markupName
  /-- The text behind a tag. -/
  | child
  /-- The value of an attribute. -/
  | value
  /-- All signs of an operator that begins with `>`. -/
  | greater
  /-- The first of two signs `<`. -/
  | less

namespace Manner

/-- What is made of a token where it begins. -/
def again (m : Manner) (t : Token) : Lexeme :=
  match m, t.here with
  | .regexp, '/' :: _ => Lexer.regexp t
  | .template, '\x7d' :: rest => Lexer.template false t.afterBreak ⟨t.here, t.span.start⟩ rest
  | .markupName, _ => sound (if t.isWord then elementName t else t)
  | .greater, '>' :: _ => sound (growGreater t)
  | .less, '<' :: '<' :: _ => sound (firstCharacter t .less)
  | _, _ => sound t

def andAgain (m : Manner) (lexeme : Lexeme) : Lexeme :=
  if lexeme.fault.isSome then lexeme else m.again lexeme.token

def read (m : Manner) (isModule broken : Bool) (at_ : Cursor) : Lexeme :=
  match m with
  | .child => elementChild at_
  | .value => attributeValue isModule at_
  | _ => m.andAgain (next isModule broken at_)

end Manner

section Again

variable {c : Char} {text : List Char} {pos : Nat} {broken : Bool} {t t' : Token} {m : Manner}

theorem tokenAt_here (broken : Bool) (at_ : Cursor) :
    (tokenAt broken at_).token.here = at_.rest ∧
      (tokenAt broken at_).token.afterBreak = broken := by
  obtain ⟨here, pos⟩ := at_
  cases here with
  | nil => exact ⟨rfl, rfl⟩
  | cons c text =>
    rw [tokenAt_cons]
    repeat' split
    · exact ⟨rfl, rfl⟩
    · unfold string
      dsimp only
      split <;> exact ⟨rfl, rfl⟩
    · exact ⟨rfl, rfl⟩
    · unfold privateName
      dsimp only
      split
      · split <;> exact ⟨rfl, rfl⟩
      · exact ⟨rfl, rfl⟩
    · exact ⟨rfl, rfl⟩
    · unfold mark
      split <;> exact ⟨rfl, rfl⟩

def Manner.readAt (m : Manner) (broken : Bool) (c : Char) (text : List Char) (pos : Nat) : Lexeme :=
  m.andAgain (tokenAt broken ⟨c :: text, pos⟩)

theorem Manner.andAgain_eq {lexeme : Lexeme} (h : m.again lexeme.token = sound lexeme.token) :
    m.andAgain lexeme = lexeme := by
  obtain ⟨token, fault⟩ := lexeme
  cases fault with
  | none => exact h
  | some cause => rfl

theorem Manner.sound_of_andAgain {lexeme : Lexeme} (h : m.andAgain lexeme = sound t) :
    ∃ t₀, lexeme = sound t₀ ∧ m.again t₀ = sound t := by
  obtain ⟨token, fault⟩ := lexeme
  cases fault with
  | none => exact ⟨token, rfl, h⟩
  | some cause => cases h

theorem Manner.readAt_plainly (hplain : ∀ text' pos, Alike text text' →
      m.again (tokenAt broken ⟨c :: text', pos⟩).token =
        sound (tokenAt broken ⟨c :: text', pos⟩).token)
    (h : m.readAt broken c text pos = sound t) (hapart : t.Apart) :
    ReadAgain (m.readAt broken c) c text t := by
  have hread (text' : List Char) (pos : Nat) (halike : Alike text text') :
      m.readAt broken c text' pos = tokenAt broken ⟨c :: text', pos⟩ :=
    Manner.andAgain_eq (hplain text' pos halike)
  rw [hread text pos (.refl _)] at h
  exact (tokenAt_again h hapart).congr hread

def regexpFrom (broken : Bool) (text : List Char) (pos : Nat) : Lexeme :=
  regexp (token (.mark .slash) broken ⟨'/' :: text, pos⟩ ⟨text, pos + 1⟩)

theorem regexpFrom_again (h : regexpFrom broken text pos = sound t) (hapart : t.Apart) :
    ReadAgain (regexpFrom broken) '/' text t := by
  let isFlag (c : Char) : Bool := c.isAlphanum || c == '$' || c == '_'
  have hquote : ∀ c, IsQuote c → isFlag c = false := by
    rintro _ (rfl | rfl) <;> rfl
  rcases hbody : regexpBody? false false text (pos + 1) with _ | ⟨mid, stop⟩
  · simp [regexpFrom, regexp, token, hbody] at h
    cases h
  · rcases hflags : Cursor.takeWhile isFlag [] mid stop with ⟨flags, ⟨rest, stop'⟩⟩
    simp only [regexpFrom, regexp, token, List.drop_succ_cons, List.drop_zero, hbody] at h
    rw [show Cursor.takeWhile _ [] mid stop = _ from hflags] at h
    obtain ⟨hsound, rfl⟩ := checked_eq_sound.1 h
    obtain ⟨body, rfl, hbody'⟩ := regexpBody?_spelling hbody
    obtain ⟨more, rfl, -, hend, hflags'⟩ := takeWhile_spelling hflags
    refine ⟨body ++ more, by simp, fun rest' pos halike => ?_⟩
    have hread := hbody' (more ++ rest') (pos + 1)
    have hmore := hflags' rest' (pos + 1 + byteLength body)
      ((halike.sameFront (hapart rfl)).noFront hquote hend)
    simp only [regexpFrom, regexp, token, List.drop_succ_cons, List.drop_zero, List.append_assoc,
      hread]
    rw [show Cursor.takeWhile _ [] _ _ = _ from hmore]
    have hsize : Char.utf8Size '/' = 1 := rfl
    simp [checked, hsound, sound, Token.placed, hsize, Nat.add_assoc]

theorem tokenAt_slash (broken : Bool) (text : List Char) (pos : Nat) : ∃ m after,
    tokenAt broken ⟨'/' :: text, pos⟩ =
      sound (token (.mark m) broken ⟨'/' :: text, pos⟩ after) := by
  rw [tokenAt_cons]
  have hmark : ∃ m more, mark? '/' text = some (m, more) := by
    rcases text with _ | ⟨d, text⟩
    · exact ⟨_, _, rfl⟩
    · by_cases hd : d = '='
      · exact ⟨.slashAssign, 1, by simp [mark?, hd]⟩
      · exact ⟨.slash, 0, by simp [mark?, hd]⟩
  obtain ⟨m, more, hmark⟩ := hmark
  exact ⟨m, _, by simp [mark, hmark]; rfl⟩

def greaterAt (broken : Bool) (text : List Char) (pos : Nat) : Token :=
  growGreater (token (.mark .greater) broken ⟨'>' :: text, pos⟩ ⟨text, pos + 1⟩)

section Greater

variable {rest rest' : List Char}

theorem Alike.head_ne (h : Alike rest rest') (hc : c ∈ innerSigns) (hne : rest.head? ≠ some c) :
    rest'.head? ≠ some c := by
  have heq := h.head_eq hc
  rw [beq_false_of_ne hne] at heq
  exact ne_of_beq_false heq

theorem greaterAt_one (hequal : rest.head? ≠ some '=') (hmore : rest.head? ≠ some '>')
    (broken : Bool) (pos : Nat) :
    greaterAt broken rest pos =
      token (.mark .greater) broken ⟨'>' :: rest, pos⟩ ⟨rest, pos + 1⟩ := by
  rcases rest with _ | ⟨d, rest⟩
  · rfl
  · simp [greaterAt, growGreater, token, show d ≠ '=' from fun heq => hequal (heq ▸ rfl),
      show d ≠ '>' from fun heq => hmore (heq ▸ rfl)]

theorem greaterAt_two (hequal : rest.head? ≠ some '=') (hmore : rest.head? ≠ some '>')
    (broken : Bool) (pos : Nat) : greaterAt broken ('>' :: rest) pos =
      token (.mark .shiftRight) broken ⟨'>' :: '>' :: rest, pos⟩ ⟨rest, pos + 2⟩ := by
  rcases rest with _ | ⟨d, rest⟩
  · rfl
  · simp [greaterAt, growGreater, token, show d ≠ '=' from fun heq => hequal (heq ▸ rfl),
      show d ≠ '>' from fun heq => hmore (heq ▸ rfl)]

theorem greaterAt_three (hequal : rest.head? ≠ some '=') (broken : Bool) (pos : Nat) :
    greaterAt broken ('>' :: '>' :: rest) pos =
      token (.mark .shiftRightZero) broken ⟨'>' :: '>' :: '>' :: rest, pos⟩ ⟨rest, pos + 3⟩ := by
  rcases rest with _ | ⟨d, rest⟩
  · rfl
  · simp [greaterAt, growGreater, token, show d ≠ '=' from fun heq => hequal (heq ▸ rfl)]

theorem greaterAt_again (broken : Bool) (text : List Char) (pos : Nat) :
    ReadAgain (fun text pos => sound (greaterAt broken text pos)) '>' text
      (greaterAt broken text pos) := by
  have hequal : '=' ∈ innerSigns := by decide
  have hmore : '>' ∈ innerSigns := by decide
  by_cases h₁ : text.head? = some '='
  · obtain ⟨rest, rfl⟩ : ∃ rest, text = '=' :: rest := List.head?_eq_some_iff.1 h₁
    exact ⟨['='], rfl, fun _ _ _ => rfl⟩
  by_cases h₂ : text.head? = some '>'
  · obtain ⟨text, rfl⟩ : ∃ rest, text = '>' :: rest := List.head?_eq_some_iff.1 h₂
    by_cases h₃ : text.head? = some '='
    · obtain ⟨rest, rfl⟩ : ∃ rest, text = '=' :: rest := List.head?_eq_some_iff.1 h₃
      exact ⟨['>', '='], rfl, fun _ _ _ => rfl⟩
    by_cases h₄ : text.head? = some '>'
    · obtain ⟨text, rfl⟩ : ∃ rest, text = '>' :: rest := List.head?_eq_some_iff.1 h₄
      by_cases h₅ : text.head? = some '='
      · obtain ⟨rest, rfl⟩ : ∃ rest, text = '=' :: rest := List.head?_eq_some_iff.1 h₅
        exact ⟨['>', '>', '='], rfl, fun _ _ _ => rfl⟩
      · rw [greaterAt_three h₅]
        exact ⟨['>', '>'], rfl, fun rest' pos halike =>
          congrArg sound (greaterAt_three (halike.head_ne hequal h₅) broken pos)⟩
    · rw [greaterAt_two h₃ h₄]
      exact ⟨['>'], rfl, fun rest' pos halike => congrArg sound
        (greaterAt_two (halike.head_ne hequal h₃) (halike.head_ne hmore h₄) broken pos)⟩
  · rw [greaterAt_one h₁ h₂]
    exact ⟨[], rfl, fun rest' pos halike => congrArg sound
      (greaterAt_one (halike.head_ne hequal h₁) (halike.head_ne hmore h₂) broken pos)⟩

end Greater

theorem tokenAt_less (broken : Bool) (text : List Char) (pos : Nat) : ∃ m after,
    tokenAt broken ⟨'<' :: '<' :: text, pos⟩ =
      sound (token (.mark m) broken ⟨'<' :: '<' :: text, pos⟩ after) := by
  rw [tokenAt_cons]
  have hmark : ∃ m more, mark? '<' ('<' :: text) = some (m, more) := by
    rcases text with _ | ⟨d, text⟩
    · exact ⟨_, _, rfl⟩
    · by_cases hd : d = '='
      · exact ⟨.compoundAssign, 2, by simp [mark?, hd]⟩
      · exact ⟨.shiftLeft, 1, by simp [mark?, hd]⟩
  obtain ⟨m, more, hmark⟩ := hmark
  exact ⟨m, _, by simp [mark, hmark]; rfl⟩

def isElementPart (c : Char) : Bool := isNamePart c || c == '-'

theorem elementName_eq {more : List Char} {after : Cursor}
    (h : Cursor.takeWhile isElementPart [] t.rest t.span.stop = (more, after)) :
    elementName t = { t with
      kind := if more.isEmpty then t.kind else .name
      text := t.text ++ more.reverse, span := ⟨t.span.start, after.pos⟩, rest := after.rest } := by
  have h' : Cursor.takeWhile (fun c => isNamePart c || c == '-') [] t.rest t.span.stop =
    (more, after) := h
  simp only [elementName, h']

theorem elementName_again (h : tokenAt broken ⟨c :: text, pos⟩ = sound t) (hword : t.isWord = true)
    (hapart : (elementName t).Apart) :
    ReadAgain (Manner.markupName.readAt broken c) c text (elementName t) := by
  have hquote : ∀ c, IsQuote c → isElementPart c = false := by
    rintro _ (rfl | rfl) <;> decide
  rcases hmore : Cursor.takeWhile isElementPart [] t.rest t.span.stop with ⟨more, ⟨rest, stop⟩⟩
  obtain ⟨spelling, hrest, hall, hend, hagain⟩ := takeWhile_spelling hmore
  rw [elementName_eq hmore] at hapart ⊢
  have hruns : (if more.isEmpty then t.kind else TokenKind.name).runsOn = true := by
    split
    · simp only [Token.isWord] at hword
      split at hword <;> simp_all [TokenKind.runsOn]
    · rfl
  have hfree : NoWord rest := hapart hruns
  have hstart : t.Apart := by
    intro _
    rw [hrest]
    rcases spelling with _ | ⟨d, spelling⟩
    · exact hfree
    · -- the word ends before a dash
      rintro _ ⟨⟩
      have hnone := ((front_of_tokenAt h).1 hword).2 d (by simp [hrest])
      have hdash : d = '-' := by simpa [isElementPart, hnone.1] using hall d List.mem_cons_self
      subst hdash
      decide
  obtain ⟨word, rfl, hread⟩ := tokenAt_again h hstart
  refine ⟨word ++ spelling, by simp [hrest], fun rest' pos halike => ?_⟩
  have halike' := halike.append spelling
  rw [← hrest] at halike'
  have hmore' := hagain rest' (pos + byteLength (c :: word))
    ((halike.sameFront hfree).noFront hquote hend)
  have hread' : Manner.markupName.readAt broken c (word ++ (spelling ++ rest')) pos =
      sound (elementName (t.placed (c :: word) (spelling ++ rest') pos)) :=
    (congrArg _ (hread _ pos halike')).trans (congrArg sound (if_pos hword))
  rw [List.append_assoc, hread', elementName_eq hmore']
  simp [Token.placed, Nat.add_assoc]

theorem Manner.readAt_again (h : m.readAt broken c text pos = sound t) (hapart : t.Apart) :
    ReadAgain (m.readAt broken c) c text t := by
  have hhere (text : List Char) (pos : Nat) :
      (tokenAt broken ⟨c :: text, pos⟩).token.here = c :: text := (tokenAt_here ..).1
  cases m with
  | plain | child | value =>
    exact readAt_plainly (fun _ _ _ => rfl) h hapart
  | regexp =>
    by_cases hc : c = '/'
    · subst hc
      have hread (text : List Char) (pos : Nat) :
          Manner.regexp.readAt broken '/' text pos = regexpFrom broken text pos := by
        obtain ⟨m, after, hslash⟩ := tokenAt_slash broken text pos
        rw [readAt, hslash]
        rfl
      rw [hread] at h
      exact (regexpFrom_again h hapart).congr fun _ _ _ => hread ..
    · exact readAt_plainly (fun _ _ _ => by simp [again, hhere, hc]) h hapart
  | template =>
    by_cases hc : c = '\x7d'
    · subst hc
      exact (template_again rfl h).congr fun _ _ _ => rfl
    · exact readAt_plainly (fun _ _ _ => by simp [again, hhere, hc]) h hapart
  | greater =>
    by_cases hc : c = '>'
    · subst hc
      obtain rfl : greaterAt broken text pos = t := sound_inj.1 h
      exact (greaterAt_again broken text pos).congr fun _ _ _ => rfl
    · exact readAt_plainly (fun _ _ _ => by simp [again, hhere, hc]) h hapart
  | less =>
    by_cases hc : c = '<' ∧ text.head? = some '<'
    · obtain ⟨rfl, hhead⟩ := hc
      have hread (text : List Char) (pos : Nat) : Manner.less.readAt broken '<' ('<' :: text) pos =
          sound (token (.mark .less) broken ⟨'<' :: '<' :: text, pos⟩ ⟨'<' :: text, pos + 1⟩) := by
        obtain ⟨m, after, hless⟩ := tokenAt_less broken text pos
        rw [readAt, hless]
        rfl
      obtain ⟨more, rfl⟩ : ∃ more, text = '<' :: more := List.head?_eq_some_iff.1 hhead
      rw [hread] at h
      obtain rfl := sound_inj.1 h
      refine ⟨[], rfl, fun rest' pos halike => ?_⟩
      cases halike with
      | same => exact hread ..
      | word hword => exact absurd hword (by decide)
      | quote hquote => exact absurd hquote (by decide)
    · refine readAt_plainly (fun text' _ halike => ?_) h hapart
      by_cases hopen : c = '<'
      · have hhead := halike.head_ne (by decide) fun h => hc ⟨hopen, h⟩
        rcases text' with _ | ⟨d, more⟩
        · simp [again, hhere]
        · simp [again, hhere, show d ≠ '<' from fun heq => hhead (heq ▸ rfl)]
      · simp [again, hhere, hopen]
  | markupName =>
    obtain ⟨t₀, h₀, h⟩ := sound_of_andAgain h
    obtain rfl : (if t₀.isWord then elementName t₀ else t₀) = t := sound_inj.1 h
    by_cases hword : t₀.isWord = true
    · rw [if_pos hword] at hapart ⊢
      exact elementName_again h₀ hword hapart
    · rw [if_neg hword] at hapart ⊢
      obtain ⟨spelling, rfl, hread⟩ := tokenAt_again h₀ hapart
      refine ⟨spelling, rfl, fun rest' pos halike => ?_⟩
      exact (congrArg _ (hread rest' pos halike)).trans (congrArg sound (if_neg hword))

end Again

section Reading

variable {text : List Char} {pos : Nat} {isModule broken : Bool} {t : Token} {m : Manner}

theorem skipGap_between {here : List Char} {stop : Nat} {broken' : Bool}
    (h : skipGap isModule .between broken text pos = (⟨here, stop⟩, broken', false)) :
    ∃ gap, text = gap ++ here ∧ stop = pos + byteLength gap ∧ ∀ here' pos, Alike here here' →
      skipGap isModule .between broken (gap ++ here') pos =
        (⟨here', pos + byteLength gap⟩, broken', false) := by
  have hfits : Fits .between text := trivial
  obtain ⟨gap, rfl, hagain⟩ := skipGap_again hfits h
  rw [hagain here pos (.refl _)] at h
  cases h
  exact ⟨gap, rfl, rfl, hagain⟩

theorem next_gap (h : next isModule broken ⟨text, pos⟩ = sound t) : ∃ gap here broken',
    text = gap ++ here ∧ tokenAt broken' ⟨here, pos + byteLength gap⟩ = sound t ∧
      ∀ here' pos, Alike here here' → next isModule broken ⟨gap ++ here', pos⟩ =
        tokenAt broken' ⟨here', pos + byteLength gap⟩ := by
  rcases hskip : skipGap isModule .between broken text pos with ⟨⟨here, stop⟩, broken', opened⟩
  simp only [next, hskip] at h
  cases opened with
  | true => cases h
  | false =>
    obtain ⟨gap, rfl, rfl, hagain⟩ := skipGap_between hskip
    refine ⟨gap, here, broken', rfl, h, fun here' pos halike => ?_⟩
    simp only [next, hagain here' pos halike]
    rfl

/-- What a reader finds in a text, behind a gap, it finds in each text that goes on alike. -/
def FoundAgain (read : Cursor → Lexeme) (text : List Char) (t : Token) : Prop :=
  ∃ gap spelling, (t.kind ≠ .finish → spelling ≠ []) ∧ text = gap ++ (spelling ++ t.rest) ∧
    ∀ rest' pos, Alike t.rest rest' → read ⟨gap ++ (spelling ++ rest'), pos⟩ =
      sound (t.placed spelling rest' (pos + byteLength gap))

theorem next_again (h : m.andAgain (next isModule broken ⟨text, pos⟩) = sound t)
    (hapart : t.Apart) : FoundAgain (fun at_ => m.andAgain (next isModule broken at_)) text t := by
  obtain ⟨t₀, h₀, hagain⟩ := Manner.sound_of_andAgain h
  obtain ⟨gap, here, broken', rfl, htoken, hnext⟩ := next_gap h₀
  cases here with
  | nil =>
    obtain rfl := sound_inj.1 htoken
    obtain rfl :
        token .finish broken' ⟨[], pos + byteLength gap⟩ ⟨[], pos + byteLength gap⟩ = t := by
      cases m <;> exact sound_inj.1 hagain
    refine ⟨gap, [], fun h => absurd rfl h, rfl, fun rest' pos halike => ?_⟩
    cases halike
    dsimp only
    rw [List.append_nil, hnext [] pos .nil]
    cases m <;> rfl
  | cons c text =>
    have hread : m.readAt broken' c text (pos + byteLength gap) = sound t :=
      (congrArg m.andAgain htoken).trans hagain
    obtain ⟨spelling, rfl, hread'⟩ := Manner.readAt_again hread hapart
    refine ⟨gap, c :: spelling, nofun, rfl, fun rest' pos halike => ?_⟩
    have halike' := halike.append (c :: spelling)
    exact (congrArg m.andAgain (hnext _ pos halike')).trans (hread' rest' _ halike)

def isElementText (c : Char) : Bool := c != '<' && c != '\x7b' && c != '>' && c != '\x7d'

def endsText : List Char → Bool
  | '>' :: _ | '\x7d' :: _ => false
  | _ => true

theorem elementChild_text {c : Char} (hless : c ≠ '<') (hbrace : c ≠ '\x7b') {taken : List Char}
    {after : Cursor} (h : Cursor.takeWhile isElementText [] (c :: text) pos = (taken, after)) :
    elementChild ⟨c :: text, pos⟩ = checked (token .elementText false ⟨c :: text, pos⟩ after)
      (endsText after.rest) .unexpected := by
  have h' : Cursor.takeWhile (fun c => c != '<' && c != '\x7b' && c != '>' && c != '\x7d') []
    (c :: text) pos = (taken, after) := h
  unfold elementChild
  split
  · next heq => cases heq
  · next heq => exact absurd (List.cons.inj heq).1 hless
  · next heq => exact absurd (List.cons.inj heq).1 hbrace
  · simp only [h']
    rfl

/-- Only a tag or a braced expression stands behind the text of an element. -/
theorem opens_of_endsText {d : Char} {more : List Char} (hend : NoFront isElementText (d :: more))
    (hclosed : endsText (d :: more) = true) : d = '<' ∨ d = '\x7b' := by
  have hd : isElementText d = false := hend d rfl
  have hgreater : d ≠ '>' := by
    rintro rfl
    cases hclosed
  have hclose : d ≠ '\x7d' := by
    rintro rfl
    cases hclosed
  by_contra hnot
  obtain ⟨hless, hbrace⟩ := not_or.1 hnot
  simp [isElementText, hgreater, hclose, hless, hbrace] at hd

theorem Alike.endsText {rest rest' : List Char} (halike : Alike rest rest')
    (hend : NoFront isElementText rest) (hclosed : endsText rest = true) :
    NoFront isElementText rest' ∧ endsText rest' = true := by
  cases halike with
  | nil => exact ⟨hend, rfl⟩
  | same d halike =>
    rcases opens_of_endsText hend hclosed with rfl | rfl
    · exact ⟨hend, rfl⟩
    · exact ⟨hend, rfl⟩
  | word hword =>
    rcases opens_of_endsText hend hclosed with rfl | rfl <;> exact absurd hword (by decide)
  | quote hquote =>
    rcases opens_of_endsText hend hclosed with rfl | rfl <;> exact absurd hquote (by decide)

theorem elementChild_again (h : elementChild ⟨text, pos⟩ = sound t) :
    FoundAgain elementChild text t := by
  rcases text with _ | ⟨c, text⟩
  · obtain rfl := sound_inj.1 h
    refine ⟨[], [], fun h => absurd rfl h, rfl, fun rest' pos halike => ?_⟩
    cases halike
    rfl
  by_cases hless : c = '<'
  · subst hless
    obtain rfl := sound_inj.1 h
    exact ⟨[], ['<'], nofun, rfl, fun _ _ _ => rfl⟩
  by_cases hbrace : c = '\x7b'
  · subst hbrace
    obtain rfl := sound_inj.1 h
    exact ⟨[], ['\x7b'], nofun, rfl, fun _ _ _ => rfl⟩
  rcases htaken : Cursor.takeWhile isElementText [] (c :: text) pos with ⟨taken, ⟨rest, stop⟩⟩
  obtain ⟨spelling, htext, hall, hend, hagain⟩ := takeWhile_spelling htaken
  rw [elementChild_text hless hbrace htaken] at h
  obtain ⟨hclosed, rfl⟩ := checked_eq_sound.1 h
  obtain ⟨spelling, rfl⟩ : ∃ more, spelling = c :: more := by
    cases spelling with
    | nil =>
      subst htext
      exact absurd (opens_of_endsText hend hclosed) (by simp [hless, hbrace])
    | cons d more =>
      obtain ⟨rfl, -⟩ := List.cons.inj htext
      exact ⟨more, rfl⟩
  refine ⟨[], c :: spelling, nofun, htext, fun rest' pos halike => ?_⟩
  obtain ⟨hend', hclosed'⟩ := halike.endsText hend hclosed
  have hread := elementChild_text hless hbrace (hagain rest' pos hend')
  have hread' : elementChild ⟨c :: (spelling ++ rest'), pos⟩ = _ := hread
  rw [List.nil_append, List.cons_append, hread', hclosed']
  rfl

section Value

variable {here : List Char} {stop : Nat} {broken' : Bool} {q : Char}

theorem attributeValue_plain
    (hskip : skipGap isModule .between false text pos = (⟨here, stop⟩, broken', false))
    (hhere : ∀ c, here.head? = some c → ¬ IsQuote c) :
    attributeValue isModule ⟨text, pos⟩ = tokenAt broken' ⟨here, stop⟩ := by
  have hnext : next isModule false ⟨text, pos⟩ = tokenAt broken' ⟨here, stop⟩ := by
    simp [next, hskip]
  rw [← hnext]
  simp only [attributeValue, hskip]
  rcases here with _ | ⟨c, here⟩
  · rfl
  · exact if_neg fun hquote => hhere c rfl (by simpa [IsQuote] using hquote)

theorem attributeValue_quoted (hq : IsQuote q)
    (hskip : skipGap isModule .between false text pos = (⟨q :: here, stop⟩, broken', false)) :
    attributeValue isModule ⟨text, pos⟩ =
      let (taken, after) := Cursor.takeWhile (· != q) [] here (stop + 1)
      match after.rest with
      | _ :: rest => sound (token (.string taken.reverse false) broken' ⟨q :: here, stop⟩
          ⟨rest, after.pos + 1⟩)
      | [] => ⟨token (.string taken.reverse false) broken' ⟨q :: here, stop⟩ after,
          some (.unterminated "string")⟩ := by
  simp only [attributeValue, hskip]
  exact if_pos (by simpa [IsQuote] using hq)

theorem attributeValue_again (h : attributeValue isModule ⟨text, pos⟩ = sound t)
    (hapart : t.Apart) : FoundAgain (attributeValue isModule) text t := by
  rcases hskip : skipGap isModule .between false text pos with ⟨⟨here, stop⟩, broken', opened⟩
  cases opened with
  | true =>
    -- a comment that was left open is at fault, whatever stands in it
    have hfault : (next isModule false ⟨text, pos⟩).fault ≠ none := by simp [next, hskip]
    have hnext : attributeValue isModule ⟨text, pos⟩ = next isModule false ⟨text, pos⟩ := by
      cases here <;> simp [attributeValue, hskip]
    rw [hnext] at h
    exact absurd (congrArg Lexeme.fault h) hfault
  | false =>
    obtain ⟨gap, rfl, rfl, hagain⟩ := skipGap_between hskip
    by_cases hhere : ∃ q rest, here = q :: rest ∧ IsQuote q
    · obtain ⟨q, rest, rfl, hq⟩ := hhere
      rw [attributeValue_quoted hq hskip] at h
      rcases htaken : Cursor.takeWhile (· != q) [] rest (pos + byteLength gap + 1) with
        ⟨taken, ⟨_ | ⟨d, more⟩, stop⟩⟩
      · rw [htaken] at h
        cases h
      · rw [htaken] at h
        obtain rfl := sound_inj.1 h
        obtain ⟨body, rfl, -, hend, hbody⟩ := takeWhile_spelling htaken
        obtain rfl : d = q := by simpa using hend d rfl
        refine ⟨gap, d :: (body ++ [d]), fun _ => List.cons_ne_nil _ _, by simp [token],
          fun rest' pos halike => ?_⟩
        have hsize : d.utf8Size = 1 := by rcases hq with rfl | rfl <;> rfl
        have hfront : NoFront (· != d) (d :: rest') := by
          rintro _ ⟨⟩
          simp
        have hskip' := hagain _ pos ((halike.append [d]).append (d :: body))
        simp only [List.cons_append, List.nil_append] at hskip'
        simp only [List.cons_append, List.append_assoc, List.nil_append,
          attributeValue_quoted hq hskip', hbody _ _ hfront]
        simp [token, Token.placed, hsize, Nat.add_assoc]
    · have hplain (c : Char) (hc : here.head? = some c) : ¬ IsQuote c := by
        obtain ⟨more, rfl⟩ := List.head?_eq_some_iff.1 hc
        exact fun hq => hhere ⟨c, more, rfl, hq⟩
      rw [attributeValue_plain hskip hplain] at h
      cases here with
      | nil =>
        obtain rfl := sound_inj.1 h
        refine ⟨gap, [], fun h => absurd rfl h, rfl, fun rest' pos halike => ?_⟩
        cases halike
        exact attributeValue_plain (hagain [] pos .nil) hplain
      | cons c here =>
        obtain ⟨spelling, rfl, hread⟩ := tokenAt_again h hapart
        refine ⟨gap, c :: spelling, fun _ => List.cons_ne_nil _ _, rfl,
          fun rest' pos halike => ?_⟩
        have hskip' := hagain _ pos (halike.append (c :: spelling))
        exact (attributeValue_plain hskip' fun d hd => hplain d hd).trans (hread rest' _ halike)

end Value

theorem Manner.read_again (h : m.read isModule broken ⟨text, pos⟩ = sound t) (hapart : t.Apart) :
    FoundAgain (m.read isModule broken) text t := by
  cases m with
  | child => exact elementChild_again h
  | value => exact attributeValue_again h hapart
  | plain | regexp | template | markupName | greater | less => exact next_again h hapart

theorem FoundAgain.span_eq {read : Cursor → Lexeme} {gap spelling : List Char}
    (htext : text = gap ++ (spelling ++ t.rest)) (h : read ⟨text, pos⟩ = sound t)
    (hread : ∀ rest' pos, Alike t.rest rest' → read ⟨gap ++ (spelling ++ rest'), pos⟩ =
      sound (t.placed spelling rest' (pos + byteLength gap))) :
    t = t.placed spelling t.rest (pos + byteLength gap) := by
  have hself := hread t.rest pos (.refl _)
  rw [← htext, h] at hself
  exact sound_inj.1 hself

end Reading

end ModuleBundler.Script
