import ModuleBundler.Proofs.Script.Spelling
import ModuleBundler.Proofs.Script.Step

/-! Texts that are written word by word are read word by word, wherever they stand. -/
namespace ModuleBundler.Script

open Lexer

section Front

/-- The token at the front of a text, with the word that it is and what it leaves. -/
def Shows (text : List Char) (kind : TokenKind) (word rest : List Char) : Prop :=
  ∀ (broken : Bool) (pos : Nat), ∃ t, next false broken ⟨text, pos⟩ = sound t ∧ t.kind = kind ∧
    t.text = word ∧ t.Plain ∧ t.rest = rest ∧ t.afterBreak = broken ∧ pos ≤ t.span.start ∧
      t.span.start ≤ t.span.stop

/-- A text goes on with a token that has no fault and is no `else`, which would belong to what
stands before it. -/
def Opens (text : List Char) : Prop :=
  ∀ (broken : Bool) (pos : Nat), ∃ t, next false broken ⟨text, pos⟩ = sound t ∧
    t.kind ≠ .keyword .elseWord ∧ pos ≤ t.span.start ∧ t.span.start ≤ t.span.stop

variable {text word rest : List Char} {k : TokenKind} {c : Char}

theorem Shows.opens (h : Shows text k word rest) (hk : k ≠ .keyword .elseWord) : Opens text := by
  intro broken pos
  obtain ⟨t, hnext, hkind, -, -, -, -, hstart, hstop⟩ := h broken pos
  exact ⟨t, hnext, hkind ▸ hk, hstart, hstop⟩

theorem opens_nil : Opens [] := fun _ _ => ⟨_, rfl, nofun, Nat.le_refl _, Nat.le_refl _⟩

def isBlank (c : Char) : Bool := isGap c || isLineBreak c

theorem next_blank (h : isBlank c = true) (broken : Bool) (text : List Char) (pos : Nat) :
    next false broken ⟨c :: text, pos⟩ =
      next false (broken || (!isGap c && isLineBreak c)) ⟨text, pos + c.utf8Size⟩ := by
  have hskip : skipGap false .between broken (c :: text) pos =
      skipGap false .between (broken || (!isGap c && isLineBreak c)) text (pos + c.utf8Size) := by
    cases hgap : isGap c with
    | true =>
      rw [Bool.not_true, Bool.false_and, Bool.or_false]
      exact if_pos hgap
    | false =>
      have hbreak : isLineBreak c = true := by
        rwa [isBlank, hgap, Bool.false_or] at h
      rw [hbreak, Bool.not_false, Bool.true_and, Bool.or_true]
      exact (if_neg (ne_true_of_eq_false hgap)).trans (if_pos hbreak)
  unfold next
  dsimp only
  rw [hskip]

theorem Opens.blank (h : Opens text) (hc : isBlank c = true) : Opens (c :: text) := by
  intro broken pos
  obtain ⟨t, hnext, hkind, hstart, hstop⟩ :=
    h (broken || (!isGap c && isLineBreak c)) (pos + c.utf8Size)
  exact ⟨t, (next_blank hc broken text pos).trans hnext, hkind, by omega, hstop⟩

def beginsToken (c : Char) : Bool :=
  !isGap c && !isLineBreak c && c != '/' && c != '<' && c != '-'

theorem skipGap_token (h : beginsToken c = true) (broken : Bool) (text : List Char) (pos : Nat) :
    skipGap false .between broken (c :: text) pos = (⟨c :: text, pos⟩, broken, false) := by
  simp only [beginsToken, Bool.and_eq_true, Bool.not_eq_true', bne_iff_ne] at h
  obtain ⟨⟨⟨⟨hgap, hbreak⟩, hslash⟩, hless⟩, hminus⟩ := h
  have hcomment : commentAt? false broken c text = none := by
    unfold commentAt?
    split <;> simp_all
  refine (if_neg (ne_true_of_eq_false hgap)).trans
    ((if_neg (ne_true_of_eq_false hbreak)).trans ?_)
  rw [hcomment]

theorem next_token (h : beginsToken c = true) (broken : Bool) (text : List Char) (pos : Nat) :
    next false broken ⟨c :: text, pos⟩ = tokenAt broken ⟨c :: text, pos⟩ := by
  unfold next
  dsimp only
  rw [skipGap_token h]
  rfl

end Front

section Words

theorem plain_of_not_escaped {t : Token} (h : t.escaped = false) : t.Plain := by
  rintro ⟨hescaped, -⟩
  rw [h] at hescaped
  cases hescaped

/-- A piece of a text: a blank, a name or keyword, a quoted string, or a mark. -/
inductive Piece where
  | blank (c : Char)
  | name (text : List Char)
  | quoted (text : String)
  | mark (m : Mark)

def markText : Mark → List Char
  | .parenOpen => ['(']
  | .parenClose => [')']
  | .braceOpen => ['\x7b']
  | .braceClose => ['\x7d']
  | .bracketOpen => ['[']
  | .bracketClose => [']']
  | .semicolon => [';']
  | .comma => [',']
  | .colon => [':']
  | .dot => ['.']
  | .assign => ['=']
  | .arrow => ['=', '>']
  | .strictNotEqual => ['!', '=', '=']
  | _ => []

def nameKind (text : List Char) : TokenKind :=
  match Keyword.ofChars? text with
  | some k => .keyword k
  | none => .name

def isName (text : List Char) : Bool :=
  (text.head?.any fun c => beginsToken c && isNameStart c) && text.all isNamePart &&
    nameKind text != .keyword .elseWord

namespace Piece

def text : Piece → List Char
  | blank c => [c]
  | name text => text
  | quoted text => (Text.quote text).toList
  | mark m => markText m

def kind? : Piece → Option TokenKind
  | blank _ => none
  | name text => some (nameKind text)
  | quoted text => some (.string text.toList false)
  | mark m => some (.mark m)

def word : Piece → List Char
  | name text => text
  | _ => []

/-- A word is read as itself in front of a character. -/
def fits : Piece → Option Char → Bool
  | blank c, _ => isBlank c
  | name text, some c => isName text && !isNamePart c && c != '\\'
  | quoted _, _ => true
  | mark .assign, some c => c == ' '
  | mark .dot, some c => c != '.' && !c.isDigit
  | mark .assign, none | mark .dot, none | name _, none => false
  | mark m, _ => !(markText m).isEmpty

@[simp]
theorem fits_name (text : List Char) (c : Char) :
    (name text).fits (some c) = (isName text && !isNamePart c && c != '\\') :=
  rfl

@[simp]
theorem fits_assign (c : Char) : (mark .assign).fits (some c) = (c == ' ') :=
  rfl

@[simp]
theorem fits_dot (c : Char) : (mark .dot).fits (some c) = (c != '.' && !c.isDigit) :=
  rfl

end Piece

def spelled (ws : List Piece) : List Char := ws.flatMap Piece.text

def kinds (ws : List Piece) : List TokenKind := ws.filterMap Piece.kind?

def texts (ws : List Piece) : List String :=
  (ws.filter fun w => w.kind?.isSome).map fun w => String.ofList w.word

def fitting : List Piece → Bool
  | [] => true
  | w :: more => w.fits (spelled more).head? && fitting more

variable {rest : List Char}

theorem shows_name {text : List Char} (h : isName text = true) (hrest : NoNamePart rest) :
    Shows (text ++ rest) (nameKind text) text rest := by
  intro broken pos
  simp only [isName, Bool.and_eq_true] at h
  obtain ⟨⟨hhead, hall⟩, -⟩ := h
  obtain ⟨c, more, rfl⟩ : ∃ c more, text = c :: more := by
    cases text with
    | nil => cases hhead
    | cons c more => exact ⟨c, more, rfl⟩
  simp only [List.head?_cons, Option.any_some, Bool.and_eq_true] at hhead
  obtain ⟨hbegins, hstart⟩ := hhead
  have htoken : tokenAt broken ⟨c :: (more ++ rest), pos⟩ =
      name broken ⟨c :: more ++ rest, pos⟩ := by
    simp [tokenAt, hstart]
  have hname : name broken ⟨c :: more ++ rest, pos⟩ = sound
      { token (nameKind (c :: more)) broken ⟨c :: more ++ rest, pos⟩
          ⟨rest, pos + byteLength (c :: more)⟩ with text := c :: more } := by
    rw [name, readName_append (List.all_eq_true.1 hall) hrest]
    simp only [List.append_nil, List.reverse_reverse, List.isEmpty_cons, Bool.not_false,
      Bool.and_true, checked, if_true]
    rfl
  exact ⟨_, (next_token hbegins broken (more ++ rest) pos).trans (htoken.trans hname), rfl, rfl,
    plain_of_not_escaped rfl, rfl, rfl, Nat.le_refl _, Nat.le_add_right _ _⟩

theorem shows_quote (text : String) (rest : List Char) :
    Shows ((Text.quote text).toList ++ rest) (.string text.toList false) [] rest := by
  intro broken pos
  rw [Text.toList_quote]
  exact ⟨_, next_quoted false broken text.toList rest pos, rfl, rfl, plain_of_not_escaped rfl, rfl,
    rfl, Nat.le_refl _, Nat.le_add_right _ _⟩

theorem mark?_dot {d : Char} (h : d ≠ '.') (more : List Char) :
    mark? '.' (d :: more) = some (.dot, 0) := by
  unfold mark?
  split <;> simp_all

theorem shows_mark {m : Mark} {c : Option Char} (h : (Piece.mark m).fits c = true)
    (hc : ∀ d, c = some d → rest.head? = some d) :
    Shows (markText m ++ rest) (.mark m) [] rest := by
  have htoken : ∀ broken pos, next false broken ⟨markText m ++ rest, pos⟩ =
      sound (token (.mark m) broken ⟨markText m ++ rest, pos⟩
        ⟨rest, pos + (markText m).length⟩) := by
    intro broken pos
    -- the sign of an assignment and the dot begin longer marks too, so what follows counts
    cases m
    case assign =>
      cases c with
      | none => cases h
      | some d =>
        obtain rfl : d = ' ' := by simpa using h
        obtain ⟨more, rfl⟩ : ∃ more, rest = ' ' :: more := List.head?_eq_some_iff.1 (hc _ rfl)
        rfl
    case dot =>
      cases c with
      | none => cases h
      | some d =>
        obtain ⟨hdot, hdigit⟩ : d ≠ '.' ∧ d.isDigit = false := by simpa using h
        obtain ⟨more, rfl⟩ : ∃ more, rest = d :: more := List.head?_eq_some_iff.1 (hc _ rfl)
        rw [markText, List.singleton_append, next_token (by decide)]
        simp [tokenAt, hdigit, mark?_dot hdot, isNameStart]
    case parenOpen | parenClose | braceOpen | braceClose | bracketOpen | bracketClose | semicolon
      | comma | colon | arrow | strictNotEqual => rfl
    all_goals cases h
  intro broken pos
  exact ⟨_, htoken broken pos, rfl, rfl, plain_of_not_escaped rfl, rfl, rfl, Nat.le_refl _,
    Nat.le_add_right _ _⟩

theorem head?_spelled_append {ws : List Piece} {d : Char} (h : (spelled ws).head? = some d)
    (rest : List Char) : (spelled ws ++ rest).head? = some d := by
  rw [List.head?_append, h]
  rfl

theorem shows_of_fits {w : Piece} {k : TokenKind} {ws : List Piece} (hkind : w.kind? = some k)
    (h : w.fits (spelled ws).head? = true) (rest : List Char) :
    Shows (w.text ++ (spelled ws ++ rest)) k w.word (spelled ws ++ rest) := by
  cases w with
  | blank c => cases hkind
  | name text =>
    cases hkind
    cases hnext : (spelled ws).head? with
    | none =>
      rw [hnext] at h
      cases h
    | some c =>
      rw [hnext] at h
      obtain ⟨⟨hname, hpart⟩, hslash⟩ : (isName text = true ∧ isNamePart c = false) ∧ c ≠ '\\' := by
        simpa using h
      refine shows_name hname fun d hd => ?_
      rw [head?_spelled_append hnext, Option.some.injEq] at hd
      exact hd ▸ ⟨hpart, hslash⟩
  | quoted text =>
    cases hkind
    exact shows_quote text _
  | mark m =>
    cases hkind
    exact shows_mark h fun d hd => head?_spelled_append hd rest

theorem kind_ne_else {w : Piece} {k : TokenKind} {c : Option Char} (hkind : w.kind? = some k)
    (h : w.fits c = true) : k ≠ .keyword .elseWord := by
  cases w with
  | blank d => cases hkind
  | name text =>
    cases hkind
    cases c with
    | none => cases h
    | some d => simp_all [isName]
  | quoted text =>
    cases hkind
    exact nofun
  | mark m =>
    cases hkind
    exact nofun

theorem opens_spelled {ws : List Piece} (h : fitting ws = true) (hrest : Opens rest) :
    Opens (spelled ws ++ rest) := by
  induction ws with
  | nil => exact hrest
  | cons w more ih =>
    obtain ⟨hfits, hmore⟩ : w.fits (spelled more).head? = true ∧ fitting more = true := by
      simpa [fitting] using h
    rw [spelled, List.flatMap_cons, List.append_assoc]
    cases hkind : w.kind? with
    | none =>
      cases w with
      | blank c => exact (ih hmore).blank hfits
      | _ => cases hkind
    | some k => exact (shows_of_fits hkind hfits rest).opens (kind_ne_else hkind hfits)

end Words

namespace State

variable {s s' s'' : State} {text rest : List Char}

/-- The token under the eye is the first of a text. -/
def At (s : State) (text : List Char) : Prop :=
  ∃ broken pos, next false broken ⟨text, pos⟩ = sound s.token

/-- The places that a reading remembers are all behind. -/
structure Fresh (s : State) : Prop where
  notArrows : ∀ place ∈ s.notArrows, place < s.token.span.start
  trailingCommas : ∀ place ∈ s.trailingCommas, place < s.token.span.start

def Breaks : State → List Bool → Prop
  | _, [] => True
  | s, b :: more => s.token.afterBreak = b ∧ (s.skip 1).Breaks more

def Texts : State → List String → Prop
  | _, [] => True
  | s, text :: more => Parser.wordText s.token = text ∧ (s.skip 1).Texts more

theorem Texts.getElem? {ts : List String} {t : String} (h : s.Texts ts) {i : Nat}
    (hi : ts[i]? = some t) : Parser.wordText (s.skip i).token = t := by
  induction ts generalizing s i with
  | nil => cases hi
  | cons first more ih =>
    cases i with
    | zero => exact h.1.trans (Option.some.inj hi)
    | succ i =>
      have hmore := ih h.2 hi
      rwa [skip_skip, Nat.add_comm] at hmore

/-- The reading goes on without a fault, in the same context, as far as a text. -/
structure Leads (s s' : State) (rest : List Char) : Prop where
  at_rest : s'.At rest
  faults_eq : s'.faults = s.faults
  context_eq : s'.context = s.context
  fresh : s.Fresh → s'.Fresh

theorem Leads.trans (h : s.Leads s' text) (h' : s'.Leads s'' rest) : s.Leads s'' rest where
  at_rest := h'.at_rest
  faults_eq := h'.faults_eq.trans h.faults_eq
  context_eq := h'.context_eq.trans h.context_eq
  fresh := h'.fresh ∘ h.fresh

theorem At.blank {c : Char} (h : s.At (c :: text)) (hc : isBlank c = true) : s.At text := by
  obtain ⟨broken, pos, hnext⟩ := h
  exact ⟨_, _, (next_blank hc broken text pos).symm.trans hnext⟩

theorem sound_injective {t t' : Token} (h : sound t = sound t') : t = t' :=
  congrArg Lexeme.token h

theorem token_of_next {k : TokenKind} {word : List Char} {broken : Bool} {pos : Nat}
    (hshows : Shows text k word rest) (h : next false broken ⟨text, pos⟩ = sound s.token) :
    (s.token.kind = k ∧ s.token.Plain) ∧ s.token.text = word ∧ s.token.rest = rest ∧
      s.token.afterBreak = broken ∧ s.token.span.start ≤ s.token.span.stop := by
  obtain ⟨t, ht, hkind, htext, hplain, hrest, hbroken, -, hstop⟩ := hshows broken pos
  obtain rfl := sound_injective (ht.symm.trans h)
  exact ⟨⟨hkind, hplain⟩, htext, hrest, hbroken, hstop⟩

theorem next_skip (h : Opens s.token.rest) :
    next false false ⟨s.token.rest, s.token.span.stop⟩ = sound (s.skip 1).token := by
  obtain ⟨t, hnext, -, -, -⟩ := h false s.token.span.stop
  rw [skip, skip, hnext]
  rfl

theorem leads_skip (h : Opens s.token.rest) (hs : s.token.span.start ≤ s.token.span.stop) :
    s.Leads (s.skip 1) s.token.rest := by
  obtain ⟨t, hnext, -, hstart, -⟩ := h false s.token.span.stop
  obtain rfl := sound_injective (hnext.symm.trans (next_skip h))
  have hmoved : s.token.span.start ≤ (s.skip 1).token.span.start := Nat.le_trans hs hstart
  refine ⟨⟨false, s.token.span.stop, hnext⟩, ?_, rfl, fun hfresh => ⟨?_, ?_⟩⟩
  · rw [skip, skip, hnext]
    rfl
  · exact fun place hplace => Nat.lt_of_lt_of_le (hfresh.notArrows place hplace) hmoved
  · exact fun place hplace => Nat.lt_of_lt_of_le (hfresh.trailingCommas place hplace) hmoved

end State

/-- Which tokens of a text stand on a new line, if the first does in a given case. -/
def breaks : Bool → List Piece → List Bool
  | _, [] => []
  | broken, .blank c :: more => breaks (broken || (!isGap c && isLineBreak c)) more
  | broken, _ :: more => broken :: breaks false more

theorem passes_from {ws : List Piece} {s : State} {rest : List Char} (hws : fitting ws = true)
    (hrest : Opens rest) {broken : Bool} {pos : Nat}
    (h : next false broken ⟨spelled ws ++ rest, pos⟩ = sound s.token) :
    s.Sees (kinds ws) ∧ s.Texts (texts ws) ∧ s.Breaks (breaks broken ws) ∧
      s.Leads (s.skip (kinds ws).length) rest := by
  induction ws generalizing s broken pos with
  | nil => exact ⟨trivial, trivial, trivial, ⟨broken, pos, h⟩, rfl, rfl, id⟩
  | cons w more ih =>
    obtain ⟨hfits, hmore⟩ : w.fits (spelled more).head? = true ∧ fitting more = true := by
      simpa [fitting] using hws
    rw [spelled, List.flatMap_cons, List.append_assoc] at h
    -- a word that is no blank is one token, and the others are read behind it
    have token : ∀ k, w.kind? = some k → kinds (w :: more) = k :: kinds more →
        texts (w :: more) = String.ofList w.word :: texts more →
        breaks broken (w :: more) = broken :: breaks false more →
        s.Sees (kinds (w :: more)) ∧ s.Texts (texts (w :: more)) ∧
          s.Breaks (breaks broken (w :: more)) ∧
            s.Leads (s.skip (kinds (w :: more)).length) rest := by
      intro k hkind hkinds hsaid hbreaks
      obtain ⟨hseen, hword, hleft, hbroken, hstop⟩ :=
        State.token_of_next (shows_of_fits hkind hfits rest) h
      have hopens : Opens s.token.rest := hleft ▸ opens_spelled hmore hrest
      have hnext := State.next_skip hopens
      rw [hleft] at hnext
      obtain ⟨hsees, htexts, hlines, hleads⟩ := ih hmore hnext
      have hfirst := State.leads_skip hopens hstop
      rw [hkinds, hsaid, hbreaks]
      refine ⟨⟨hseen, hsees⟩, ⟨congrArg String.ofList hword, htexts⟩, ⟨hbroken, hlines⟩, ?_⟩
      rw [State.skip_skip, Nat.add_comm] at hleads
      exact hfirst.trans hleads
    cases w with
    | blank c => exact ih hmore ((next_blank hfits broken _ pos).symm.trans h)
    | name text => exact token _ rfl rfl rfl rfl
    | quoted text => exact token _ rfl rfl rfl rfl
    | mark m => exact token _ rfl rfl rfl rfl

theorem State.Breaks.afterBreak {bs : List Bool} {s : State} {i : Nat} (h : s.Breaks bs)
    (hi : bs.getD i true = false) : (s.skip i).token.afterBreak = false := by
  induction bs generalizing s i with
  | nil => cases hi
  | cons b more ih =>
    cases i with
    | zero => exact h.1.trans hi
    | succ i =>
      have hmore := ih h.2 hi
      rwa [skip_skip, Nat.add_comm] at hmore

theorem State.Breaks.afterBreak_behind {b : Bool} {bs : List Bool} {s : State} {i : Nat}
    (h : s.Breaks (b :: bs)) (hi : (true :: bs).getD i true = false) :
    (s.skip i).token.afterBreak = false := by
  cases i with
  | zero => cases hi
  | succ i =>
    have hmore := h.2.afterBreak hi
    rwa [skip_skip, Nat.add_comm] at hmore

theorem afterBreak_of_breaks {ws : List Piece} {s : State} {broken : Bool} {i : Nat}
    (h : s.Breaks (breaks broken ws)) (hi : (breaks true ws).getD i true = false) :
    (s.skip i).token.afterBreak = false := by
  induction ws generalizing broken with
  | nil => cases hi
  | cons w more ih =>
    cases w with
    | blank c => exact ih h hi
    | name text => exact h.afterBreak_behind hi
    | quoted text => exact h.afterBreak_behind hi
    | mark m => exact h.afterBreak_behind hi

/-- A text is written in words, which are read as tokens of some kinds. -/
structure Worded (ws : List Piece) (text : List Char) (ks : List TokenKind) : Prop where
  spelled_eq : spelled ws = text
  fitting_eq : fitting ws = true
  kinds_eq : kinds ws = ks

section Worded

variable {ws : List Piece} {text rest : List Char} {ks : List TokenKind} {s : State}

theorem Worded.opens (h : Worded ws text ks) (hrest : Opens rest) : Opens (text ++ rest) := by
  rw [← h.spelled_eq]
  exact opens_spelled h.fitting_eq hrest

theorem Worded.passes (h : Worded ws text ks) (hs : s.At (text ++ rest)) (hrest : Opens rest) :
    s.Sees ks ∧ s.Leads (s.skip ks.length) rest := by
  obtain ⟨rfl, hfits, rfl⟩ := h
  obtain ⟨broken, pos, hnext⟩ := hs
  obtain ⟨hsees, -, -, hleads⟩ := passes_from hfits hrest hnext
  exact ⟨hsees, hleads⟩

theorem Worded.sees_texts (h : Worded ws text ks) (hs : s.At (text ++ rest)) (hrest : Opens rest) :
    s.Texts (texts ws) := by
  obtain ⟨rfl, hfits, rfl⟩ := h
  obtain ⟨broken, pos, hnext⟩ := hs
  exact (passes_from hfits hrest hnext).2.1

theorem Worded.sameLine (h : Worded ws text ks) (hs : s.At (text ++ rest)) (hrest : Opens rest)
    {i : Nat} (hi : (breaks true ws).getD i true = false) :
    (s.skip i).token.afterBreak = false := by
  obtain ⟨rfl, hfits, rfl⟩ := h
  obtain ⟨broken, pos, hnext⟩ := hs
  obtain ⟨-, -, hbreaks, -⟩ := passes_from hfits hrest hnext
  exact afterBreak_of_breaks hbreaks hi

end Worded

def single? (c : Char) : Option Mark :=
  [Mark.parenOpen, .parenClose, .braceOpen, .braceClose, .bracketOpen, .bracketClose, .semicolon,
    .comma, .colon, .dot, .assign].find? fun m => markText m == [c]

def wordsFrom (taken : List Char) : List Char → List Piece
  | [] => flush taken
  | '=' :: '>' :: more => flush taken ++ .mark .arrow :: wordsFrom [] more
  | '!' :: '=' :: '=' :: more => flush taken ++ .mark .strictNotEqual :: wordsFrom [] more
  | c :: more =>
    if isNamePart c then wordsFrom (taken ++ [c]) more
    else flush taken ++ ((single? c).elim (.blank c) .mark) :: wordsFrom [] more
where
  flush (taken : List Char) : List Piece := if taken.isEmpty then [] else [.name taken]

def words (text : String) : List Piece := wordsFrom [] text.toList

theorem worded_words {text : String} {ks : List TokenKind} (h : spelled (words text) = text.toList ∧
    fitting (words text) = true ∧ kinds (words text) = ks) : Worded (words text) text.toList ks :=
  ⟨h.1, h.2.1, h.2.2⟩

end ModuleBundler.Script
