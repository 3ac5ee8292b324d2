import ModuleBundler.Proofs.Script.Passage
import ModuleBundler.Proofs.Script.Row

/-! Texts that do nothing but call names with strings. They are read through their tokens: the tree
tells which names and strings the tokens say, wherever these stand. -/
namespace ModuleBundler.Script

open Lexer (GapState skipGap)
open State

section Plain

variable {isModule broken broken' opened : Bool} {state : GapState} {text text' : List Char}
  {pos pos' : Nat} {start : Cursor} {row : List (Manner × Token)} {m : Manner} {t : Token}
  {s : State}

theorem skipGap_idem (h : skipGap isModule state broken text pos = (start, broken', opened)) :
    skipGap isModule .between broken' start.rest start.pos = (start, broken', false) := by
  fun_induction skipGap isModule state broken text pos with
  | case1 =>
    cases h
    rfl
  | case5 broken pos c rest hgap hline hcomment =>
    cases h
    simp [skipGap, hgap, hline, hcomment]
  | _ => simp_all

theorem skipGap_broken (state : GapState) (text : List Char) (pos : Nat) (h : broken = true) :
    (skipGap isModule state broken text pos).2.1 = true := by
  fun_induction skipGap isModule state broken text pos <;> simp_all

def PlainRow (row : List (Manner × Token)) : Prop := ∀ e ∈ row, e.1 = .plain

theorem Row.next_sound (h : Row isModule broken text pos row) (hplain : PlainRow row) :
    ∃ t, Lexer.next isModule broken ⟨text, pos⟩ = Lexer.sound t := by
  cases h with
  | finish h => exact ⟨_, h⟩
  | @token _ _ _ m t row h =>
    obtain rfl : m = .plain := hplain _ List.mem_cons_self
    exact ⟨t, (read_plain ..).symm.trans h⟩

theorem Row.of_next (h : Row isModule broken' text' pos' row) (hplain : PlainRow row)
    (hnext : Lexer.next isModule broken ⟨text, pos⟩ =
      Lexer.next isModule broken' ⟨text', pos'⟩) : Row isModule broken text pos row := by
  cases h with
  | finish h hkind => exact .finish (hnext.trans h) hkind
  | @token _ _ _ m t row h hkind hapart _ hrest =>
    obtain rfl : m = .plain := hplain _ List.mem_cons_self
    refine .token ?_ hkind hapart nofun hrest
    rw [read_plain, hnext, ← read_plain]
    exact h

theorem Row.of_line (h : Row isModule broken' text pos row) (hplain : PlainRow row)
    (hline : ∀ c, text.head? = some c → isLineBreak c = true) :
    Row isModule broken text pos row := by
  cases text with
  | nil =>
    cases h with
    | finish => exact .finish rfl rfl
    | @token _ _ _ m t row h hkind =>
      obtain rfl : m = .plain := hplain _ List.mem_cons_self
      rw [read_plain] at h
      obtain rfl := sound_inj.1 h
      exact absurd rfl hkind
  | cons c more =>
    have hbreak := hline c rfl
    have hgap : isGap c = false := by
      simp only [isLineBreak, Bool.or_eq_true, beq_iff_eq] at hbreak
      rcases hbreak with ((rfl | rfl) | rfl) | rfl <;> rfl
    refine h.of_next hplain ?_
    simp [Lexer.next, skipGap, hgap, hbreak]

theorem Row.behind_gap (h : Row isModule true text pos row) (hplain : PlainRow row) :
    ∃ start, skipGap isModule .between true text pos = (start, true, false) ∧
      Row isModule true start.rest start.pos row := by
  rcases hskip : skipGap isModule .between true text pos with ⟨start, broken, opened⟩
  obtain rfl : broken = true := by
    have hbroken := @skipGap_broken isModule true .between text pos rfl
    rwa [hskip] at hbroken
  obtain ⟨t, hnext⟩ := h.next_sound hplain
  obtain rfl : opened = false := by
    cases opened with
    | true => simp [Lexer.next, hskip, Lexer.sound] at hnext
    | false => rfl
  refine ⟨start, rfl, h.of_next hplain ?_⟩
  simp [Lexer.next, hskip, skipGap_idem hskip]

theorem Row.elsewhere (h : Row isModule broken text pos row) (pos' : Nat) :
    ∃ row', Row isModule broken text pos' row' ∧
      List.Forall₂ (Interchanged [] Word.text) row row' := by
  have hnone {s : Word × Respelled} (hs : s ∈ []) : False := absurd hs List.not_mem_nil
  obtain ⟨edits, text', hsub, -, hmem, hrow⟩ := @Row.respelled _ _ _ _ [] Word.text row
    List.nodup_nil (fun _ hs => (hnone hs).elim) h fun _ _ _ hs => (hnone hs).elim
  obtain rfl : edits = [] := by simpa [List.eq_nil_iff_forall_not_mem] using hmem
  cases hsub
  exact hrow pos'

instance : (rest : List Char) → Decidable (NoWord rest)
  | [] => isTrue nofun
  | c :: _ => decidable_of_iff (¬ BeginsWord c)
      ⟨fun h _ hc => Option.some.inj hc ▸ h, fun h => h c rfl⟩

instance (t : Token) : Decidable t.Apart :=
  inferInstanceAs (Decidable (t.kind.runsOn = true → NoWord t.rest))

/-- The plain tokens of a text, one behind the other, as far as its end. -/
def plainTokens? (isModule : Bool) : Nat → Bool → List Char → Nat → Option (List Token)
  | 0, _, _, _ => none
  | bound + 1, broken, text, pos =>
    let lexeme := Lexer.next isModule broken ⟨text, pos⟩
    let t := lexeme.token
    if lexeme.fault.isSome then none
    else if t.kind = .finish then some []
    else if t.Apart then (plainTokens? isModule bound false t.rest t.span.stop).map (t :: ·)
    else none

theorem Row.of_plainTokens {bound : Nat} {ts : List Token}
    (h : plainTokens? isModule bound broken text pos = some ts) :
    Row isModule broken text pos (ts.map (Prod.mk .plain)) := by
  induction bound generalizing broken text pos ts with
  | zero => cases h
  | succ bound ih =>
    rcases hnext : Lexer.next isModule broken ⟨text, pos⟩ with ⟨t, fault⟩
    cases fault with
    | some cause => simp [plainTokens?, hnext] at h
    | none =>
      simp only [plainTokens?, hnext, Option.isSome_none, Bool.false_eq_true, if_false] at h
      split_ifs at h with hkind hapart
      · obtain rfl := Option.some.inj h
        exact .finish hnext hkind
      · obtain ⟨more, hmore, rfl⟩ := Option.map_eq_some_iff.1 h
        exact .token ((read_plain ..).trans hnext) hkind hapart nofun (ih hmore)

/-- A row of plain tokens stands before a state, the first of them under its eye. -/
structure State.Ahead (s : State) (row : List (Manner × Token)) : Prop where
  plain : PlainRow row
  stands : ∃ broken text pos, Lexer.next false broken ⟨text, pos⟩ = Lexer.sound s.token ∧
    Row false broken text pos row

namespace State.Ahead

theorem finish (h : s.Ahead []) : s.token.kind = .finish := by
  obtain ⟨-, broken, text, pos, hnext, hrow⟩ := h
  cases hrow with
  | finish h hkind =>
    obtain rfl := sound_inj.1 (hnext.symm.trans h)
    exact hkind

theorem of_rest (h : Row false false s.token.rest s.token.span.stop row) (hplain : PlainRow row) :
    (s.skip 1).Ahead row ∧ (s.skip 1).faults = s.faults := by
  obtain ⟨t, hnext⟩ := h.next_sound hplain
  have htoken : (s.skip 1).token = t := congrArg Lexeme.token hnext
  refine ⟨⟨hplain, _, _, _, htoken ▸ hnext, h⟩, ?_⟩
  simp only [skip, hnext]
  rfl

theorem next (h : s.Ahead ((m, t) :: row)) :
    s.token = t ∧ (s.skip 1).Ahead row ∧ (s.skip 1).faults = s.faults := by
  obtain ⟨hplain, broken, text, pos, hnext, hrow⟩ := h
  obtain rfl : m = .plain := hplain _ List.mem_cons_self
  cases hrow with
  | token h _ _ _ hrest =>
    rw [read_plain, hnext] at h
    obtain rfl := sound_inj.1 h
    exact ⟨rfl, of_rest hrest fun e he => hplain e (List.mem_cons_of_mem _ he)⟩

theorem sees (h : s.Ahead row) (hwords : ∀ e ∈ row, e.2.keyword? = none) :
    s.Sees (row.map (·.2.kind)) := by
  induction row generalizing s with
  | nil => trivial
  | cons e row ih =>
    obtain ⟨htoken, hmore, -⟩ := h.next
    have hword : s.token.keyword? = none := htoken ▸ hwords _ List.mem_cons_self
    refine ⟨⟨congrArg Token.kind htoken, fun hescaped => ?_⟩,
      ih hmore fun e he => hwords e (List.mem_cons_of_mem _ he)⟩
    rw [hword] at hescaped
    cases hescaped.2

end State.Ahead

end Plain

section NameCalls

variable {row row' : List (Manner × Token)} {calls : List (Word × Word)} {s : State} {n : Nat}
  {text : List Char} {sign : Option Span}

/-- A row of statements that each call a name with a string. -/
inductive NameCalls : List (Manner × Token) → List (Word × Word) → Prop where
  | nil : NameCalls [] []
  | cons {name opening argument closing ending : Token} {x y : String}
      {row : List (Manner × Token)} {calls : List (Word × Word)}
      (hname : name.Says .identifier x) (hopening : opening.kind = .mark .parenOpen)
      (hargument : argument.Says .string y) (hclosing : closing.kind = .mark .parenClose)
      (hending : ending.kind = .mark .semicolon) (h : NameCalls row calls) :
      NameCalls ((.plain, name) :: (.plain, opening) :: (.plain, argument) :: (.plain, closing) ::
        (.plain, ending) :: row)
        ((⟨.identifier, name.span, x⟩, ⟨.string, argument.span, y⟩) :: calls)

def nameCall (x y : String) : Node :=
  .branch .expressionStatement ⟨0, 0⟩
    [.call ⟨0, 0⟩ (.leaf .identifier ⟨0, 0⟩ x) [] [.leaf .string ⟨0, 0⟩ y]]

theorem kind_eq_name {t : Token} {x : String} (h : t.Says .identifier x)
    (hword : t.keyword? = none) : t.kind = .name := by
  obtain ⟨hname, -⟩ := h
  cases hkind : t.kind <;> simp_all [Token.isIdentifier, Token.keyword?]

theorem NameCalls.statements (h : NameCalls row calls) (hrow : s.Ahead row)
    (hwords : ∀ e ∈ row, e.2.keyword? = none) (hc : s.context.Calm) :
    ∃ ms s', Parser.Statements .script (n + 11) s ms s' ∧ ms.length = calls.length ∧
      s'.token.kind = .finish ∧ s'.faults = s.faults ∧ Parser.strayDefaultIn? ms = none ∧
      Node.mapIn (fun _ => ⟨0, 0⟩) Word.text ms =
        (calls.map fun c => (c.1.text, c.2.text)).map fun c => nameCall c.1 c.2 := by
  induction h generalizing s with
  | nil => exact ⟨[], s, .done, rfl, hrow.finish, rfl, rfl, rfl⟩
  | @cons name opening argument closing ending x y row calls hname hopening hargument hclosing
      hending _ ih =>
    have hkind := kind_eq_name hname (hwords _ List.mem_cons_self)
    obtain ⟨lone, hstring⟩ := hargument
    have hsees := hrow.sees hwords
    simp only [List.map_cons, hkind, hopening, hstring, hclosing, hending] at hsees
    obtain ⟨rfl, h₁, hfaults₁⟩ := hrow.next
    obtain ⟨-, h₂, hfaults₂⟩ := h₁.next
    obtain ⟨-, h₃, hfaults₃⟩ := h₂.next
    obtain ⟨-, h₄, hfaults₄⟩ := h₃.next
    obtain ⟨-, h₅, hfaults₅⟩ := h₄.next
    simp only [skip_skip, Nat.reduceAdd] at h₅ hfaults₂ hfaults₃ hfaults₄ hfaults₅
    obtain ⟨span, span', span'', hread⟩ := run_nameCall (n := n) hc (hsees.front ⟨_, rfl⟩)
    obtain ⟨ms, s', hstatements, hlength, hfinish, hfaults, hclean, htrees⟩ :=
      ih h₅ (fun e he => hwords e (by simp [he])) (by simpa using hc)
    refine ⟨_, s', .step (Parser.not_closing hkind nofun nofun) hread hstatements,
      congrArg (· + 1) hlength, hfinish, ?_, ?_, ?_⟩
    · rw [hfaults, hfaults₅, hfaults₄, hfaults₃, hfaults₂, hfaults₁]
    · simp [Parser.strayDefaultIn?, Parser.strayDefault?, hclean]
    · have htext : Parser.wordText s.token = x := by
        rw [Parser.wordText, hname.2, String.ofList_toList]
      simp [Node.mapIn, Node.map, htrees, htext, nameCall]

theorem NameCalls.plain (h : NameCalls row calls) : PlainRow row := by
  induction h with
  | nil => exact fun e he => absurd he List.not_mem_nil
  | cons _ _ _ _ _ _ ih =>
    intro e he
    simp only [List.mem_cons] at he
    rcases he with rfl | rfl | rfl | rfl | rfl | he
    · rfl
    · rfl
    · rfl
    · rfl
    · rfl
    · exact ih e he

def callWords (calls : List (Word × Word)) : List Word := calls.flatMap fun c => [c.1, c.2]

theorem NameCalls.words_mem (h : NameCalls row calls) : ∀ w ∈ callWords calls,
    ∃ t, (.plain, t) ∈ row ∧ t.span = w.span ∧ t.Says w.kind w.text := by
  induction h with
  | nil => exact fun w hw => absurd hw List.not_mem_nil
  | @cons name _ argument _ _ _ _ _ _ hname _ hargument _ _ _ ih =>
    intro w hw
    rcases List.mem_cons.1 hw with rfl | hw
    · exact ⟨name, List.mem_cons_self, rfl, hname⟩
    rcases List.mem_cons.1 hw with rfl | hw
    · exact ⟨argument, by simp, rfl, hargument⟩
    · obtain ⟨t, ht, hsaid⟩ := ih w hw
      exact ⟨t, by simp [ht], hsaid⟩

theorem NameCalls.keyword (h : NameCalls row calls) : ∀ e ∈ row,
    (∀ w ∈ callWords calls, w.span ≠ e.2.span) → e.2.keyword? = none := by
  induction h with
  | nil => exact fun e he => absurd he List.not_mem_nil
  | cons _ hopening _ hclosing hending _ ih =>
    intro e he hother
    simp only [List.mem_cons] at he
    rcases he with rfl | rfl | rfl | rfl | rfl | he
    · exact absurd rfl (hother _ (.head _))
    · simp [Token.keyword?, hopening]
    · exact absurd rfl (hother _ (.tail _ (.head _)))
    · simp [Token.keyword?, hclosing]
    · simp [Token.keyword?, hending]
    · exact ih e he fun w hw => hother w (.tail _ (.tail _ hw))

theorem NameCalls.spans (h : NameCalls row calls) :
    List.Sublist ((callWords calls).map Word.span) (row.map (·.2.span)) := by
  induction h with
  | nil => exact .slnil
  | cons _ _ _ _ _ _ ih => exact ((((ih.cons _).cons _).cons_cons _).cons _).cons_cons _

section Exchanged

variable {words : List Word} {new : Word → String} {t : Token} {e' : Manner × Token} {kind : Leaf}
  {k : Mark} {x : String}

theorem Token.Says.unique {kind' : Leaf} {x' : String} (h : t.Says kind x) (h' : t.Says kind' x') :
    kind' = kind ∧ x' = x := by
  cases kind with
  | identifier =>
    cases kind' with
    | identifier => exact ⟨rfl, String.toList_inj.1 (h'.2.symm.trans h.2)⟩
    | string =>
      obtain ⟨lone, hkind⟩ := h'
      simp [Token.Says, Token.isIdentifier, hkind] at h
    | _ => cases h'
  | string =>
    obtain ⟨lone, hkind⟩ := h
    cases kind' with
    | identifier => simp [Token.Says, Token.isIdentifier, hkind] at h'
    | string =>
      obtain ⟨lone', hkind'⟩ := h'
      obtain ⟨hvalue, -⟩ := TokenKind.string.inj (hkind'.symm.trans hkind)
      exact ⟨rfl, String.toList_inj.1 hvalue⟩
    | _ => cases h'
  | _ => cases h

theorem SameToken.said {t' : Token} (h : SameToken t t') (hsaid : t.Says kind x) :
    t'.Says kind x := by
  cases kind with
  | identifier =>
    refine ⟨?_, h.text.trans hsaid.2⟩
    rw [Token.isIdentifier, h.kind]
    exact hsaid.1
  | string =>
    obtain ⟨lone, hkind⟩ := hsaid
    exact ⟨lone, h.kind.trans hkind⟩
  | _ => cases hsaid

theorem Interchanged.said (h : Interchanged words new (.plain, t) e') (hsaid : t.Says kind x)
    (hwords : ∀ w ∈ words, w.span = t.span → t.Says w.kind w.text)
    (hnew : ∀ w, w ∉ words → new w = w.text) :
    ∃ t', e' = (.plain, t') ∧ t'.Says kind (new ⟨kind, t.span, x⟩) := by
  cases h with
  | same hother hsame =>
    rw [hnew ⟨kind, t.span, x⟩ fun hw => hother _ hw rfl]
    exact ⟨_, rfl, hsame.said hsaid⟩
  | @word w _ t' hw hspan _ hsaid' =>
    obtain ⟨hkind, htext⟩ := hsaid.unique (hwords w hw hspan)
    obtain rfl : w = ⟨kind, t.span, x⟩ := by rw [← hkind, ← htext, ← hspan]
    exact ⟨t', rfl, hsaid'⟩

theorem Interchanged.mark (h : Interchanged words new (.plain, t) e') (hmark : t.kind = .mark k)
    (hwords : ∀ w ∈ words, w.span = t.span → t.Says w.kind w.text) :
    ∃ t', e' = (.plain, t') ∧ t'.kind = .mark k := by
  cases h with
  | same hother hsame => exact ⟨_, rfl, hsame.kind.trans hmark⟩
  | @word w _ t' hw hspan =>
    have hsaid := hwords w hw hspan
    cases hkind : w.kind <;> simp [Token.Says, Token.isIdentifier, hkind, hmark] at hsaid

theorem Interchanged.plain {e : Manner × Token} (h : Interchanged words new e e')
    (hwords : (∀ w ∈ words, w.span ≠ e.2.span) → e.2.keyword? = none) :
    e'.2.keyword? = none := by
  cases h with
  | same hother hsame =>
    rw [Token.keyword?, hsame.kind]
    exact hwords hother
  | word _ _ _ _ hplain => exact hplain

theorem NameCalls.exchanged (h : NameCalls row calls)
    (hforall : List.Forall₂ (Interchanged words new) row row')
    (hwords : ∀ e ∈ row, ∀ w ∈ words, w.span = e.2.span → e.2.Says w.kind w.text)
    (hnew : ∀ w, w ∉ words → new w = w.text) :
    ∃ calls', NameCalls row' calls' ∧
      calls'.map (fun c => (c.1.text, c.2.text)) = calls.map fun c => (new c.1, new c.2) := by
  induction h generalizing row' with
  | nil =>
    cases hforall
    exact ⟨[], .nil, rfl⟩
  | cons hname hopening hargument hclosing hending _ ih =>
    obtain _ | ⟨h₁, _ | ⟨h₂, _ | ⟨h₃, _ | ⟨h₄, _ | ⟨h₅, hforall⟩⟩⟩⟩⟩ := hforall
    simp only [List.forall_mem_cons] at hwords
    obtain ⟨hw₁, hw₂, hw₃, hw₄, hw₅, hwords⟩ := hwords
    obtain ⟨_, rfl, hname'⟩ := h₁.said hname hw₁ hnew
    obtain ⟨_, rfl, hopening'⟩ := h₂.mark hopening hw₂
    obtain ⟨_, rfl, hargument'⟩ := h₃.said hargument hw₃ hnew
    obtain ⟨_, rfl, hclosing'⟩ := h₄.mark hclosing hw₄
    obtain ⟨_, rfl, hending'⟩ := h₅.mark hending hw₅
    obtain ⟨calls', hcalls', htexts⟩ := ih hforall hwords
    exact ⟨_, .cons hname' hopening' hargument' hclosing' hending' hcalls',
      congrArg (List.cons _) htexts⟩

theorem Interchanged.plain_row (hforall : List.Forall₂ (Interchanged words new) row row')
    (hwords : ∀ e ∈ row, (∀ w ∈ words, w.span ≠ e.2.span) → e.2.keyword? = none) :
    ∀ e ∈ row', e.2.keyword? = none := by
  have hplain := ((List.forall₂_and_left ..).2 ⟨hwords, hforall⟩).imp
    (S := fun _ e' => e'.2.keyword? = none ∧ True) fun e e' h => ⟨h.2.plain h.1, trivial⟩
  exact ((List.forall₂_and_left ..).1 hplain.flip).1

end Exchanged

def nameCalls (calls : List (String × String)) : Node :=
  .branch .program ⟨0, 0⟩ (calls.map fun c => nameCall c.1 c.2)

section Read

variable {t : Token}

theorem NameCalls.not_hashbang (h : NameCalls row calls) (hrow : s.Ahead row)
    (hwords : ∀ e ∈ row, e.2.keyword? = none) : s.token.kind ≠ .hashbang := by
  cases h with
  | nil => simp [hrow.finish]
  | cons hname =>
    rw [hrow.next.1, kind_eq_name hname (hwords _ List.mem_cons_self)]
    nofun

/-- A row of calls is read as these calls, behind a hashbang or not. -/
theorem NameCalls.read (h : NameCalls row calls) (hwords : ∀ e ∈ row, e.2.keyword? = none)
    (hcount : calls.length < 63) (hreads : Reads false text sign row) :
    ∃ program, Program.read .script text = .ok program ∧ program.hashbang = sign ∧
      program.tree.unplaced = nameCalls (calls.map fun c => (c.1.text, c.2.text)) := by
  cases hreads with
  | plain hno hrow =>
    obtain ⟨start, hskip, hstart⟩ := hrow.behind_gap h.plain
    -- the reader counts from the first token on
    obtain ⟨row', hrow', hforall⟩ := hstart.elsewhere 0
    obtain ⟨calls', hcalls', htexts⟩ := h.exchanged hforall (by simp) (by simp)
    have hwords' := Interchanged.plain_row hforall fun e he _ => hwords e he
    obtain ⟨t, ht⟩ := hrow'.next_sound hcalls'.plain
    have hahead : (Program.startState .script t).Ahead row' :=
      ⟨hcalls'.plain, true, start.rest, 0, ht, hrow'⟩
    obtain ⟨ms, s', hstatements, hlength, hfinish, hfaults, hclean, htrees⟩ :=
      hcalls'.statements (n := 8 * t.here.length + 53) hahead hwords' ⟨rfl, rfl⟩
    have hsame : calls'.length = calls.length := by simpa using congrArg List.length htexts
    have hreader := Parser.run_reader (hcalls'.not_hashbang hahead hwords') hstatements hfinish
      (by omega)
    have hfrom := readFrom_sound hreader (hfaults.trans rfl) hclean
    refine ⟨Program.moved start.pos ⟨none, .branch .program ⟨t.span.start, s'.lastStop⟩ ms⟩, ?_,
      rfl, ?_⟩
    · rw [Program.read_of_skipGap hno hskip]
      show Program.behind start.pos (Program.readFrom .script
        (Lexer.next false true ⟨start.rest, 0⟩)) = _
      rw [ht, hfrom]
      rfl
    · rw [Program.moved, Node.unplaced_moved, ← htexts]
      exact congrArg (Node.branch .program ⟨0, 0⟩) htrees
  | @hashbang _ t hhas hfirst hrow =>
    obtain ⟨line, rfl, -, hbreak, hkind, -⟩ := first_hashbang hhas hfirst
    obtain ⟨hahead, hskipped⟩ := Ahead.of_rest (s := Program.startState .script t)
      (hrow.of_line h.plain hbreak) h.plain
    obtain ⟨ms, s', hstatements, hlength, hfinish, hfaults, hclean, htrees⟩ :=
      h.statements (n := 8 * t.here.length + 53) hahead hwords ⟨rfl, rfl⟩
    have hreader := Parser.run_reader_hashbang hkind hstatements hfinish (by omega)
    have hfrom := readFrom_sound hreader (hfaults.trans hskipped) hclean
    exact ⟨_, (congrArg (Program.readFrom .script) hfirst).trans hfrom, rfl,
      congrArg (Node.branch .program ⟨0, 0⟩) htrees⟩

end Read

end NameCalls

end ModuleBundler.Script
