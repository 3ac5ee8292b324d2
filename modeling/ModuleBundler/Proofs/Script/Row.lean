import ModuleBundler.Proofs.Script.Manner
import ModuleBundler.Proofs.Script.Opening
import ModuleBundler.Proofs.Script.Respelling

/-! A text as a row of tokens, each read in the manner of its place in the grammar. Where words of
the text give way to others, all other tokens stay what they are. -/
namespace ModuleBundler.Script

open Lexer

/-- A text as a row of tokens, each read in some manner from where the one before it ends. Only
behind a tag is what follows read as text. -/
inductive Row (isModule : Bool) : Bool → List Char → Nat → List (Manner × Token) → Prop where
  | finish {broken : Bool} {text : List Char} {pos : Nat} {t : Token}
      (h : next isModule broken ⟨text, pos⟩ = sound t) (hkind : t.kind = .finish) :
      Row isModule broken text pos []
  | token {broken : Bool} {text : List Char} {pos : Nat} {m : Manner} {t : Token}
      {row : List (Manner × Token)} (h : m.read isModule broken ⟨text, pos⟩ = sound t)
      (hkind : t.kind ≠ .finish) (hapart : t.Apart) (hchild : m = .child → broken = false)
      (hrest : Row isModule false t.rest t.span.stop row) :
      Row isModule broken text pos ((m, t) :: row)

section Spans

variable {isModule broken : Bool} {text : List Char} {pos : Nat} {row : List (Manner × Token)}

theorem Row.spans (h : Row isModule broken text pos row) :
    (row.map (·.2.span.start)).Pairwise (· < ·) ∧ ∀ e ∈ row, pos ≤ e.2.span.start := by
  induction h with
  | finish => exact ⟨List.Pairwise.nil, fun _ he => absurd he List.not_mem_nil⟩
  | @token broken text pos m t row h hkind hapart _ _ ih =>
    obtain ⟨gap, spelling, hne, htext, hread⟩ := Manner.read_again h hapart
    have hspan := congrArg Token.span (FoundAgain.span_eq htext h hread)
    have hstart : t.span.start = pos + byteLength gap := congrArg Span.start hspan
    have hstop : t.span.stop = pos + byteLength gap + byteLength spelling :=
      congrArg Span.stop hspan
    have hpos := byteLength_pos (hne hkind)
    obtain ⟨hpairwise, hbounds⟩ := ih
    refine ⟨List.pairwise_cons.2 ⟨fun start hmem => ?_, hpairwise⟩, fun e he => ?_⟩
    · obtain ⟨e, he, rfl⟩ := List.mem_map.1 hmem
      have hbound := hbounds e he
      show t.span.start < e.2.span.start
      omega
    · rcases List.mem_cons.1 he with rfl | he
      · show pos ≤ t.span.start
        omega
      · have hbound := hbounds e he
        omega

theorem Row.nodup (h : Row isModule broken text pos row) : (row.map (·.2.span)).Nodup := by
  refine List.Nodup.of_map Span.start ?_
  rw [List.map_map]
  exact h.spans.1.imp Nat.ne_of_lt

end Spans

/-- A token says a text: an identifier its name, a string its value. -/
def Token.Says (t : Token) (kind : Leaf) (text : String) : Prop :=
  match kind with
  | .identifier => t.isIdentifier = true ∧ t.text = text.toList
  | .string => ∃ lone, t.kind = .string text.toList lone
  | _ => False

/-- Tokens that are written and read alike. -/
structure SameToken (t t' : Token) : Prop where
  kind : t'.kind = t.kind
  afterBreak : t'.afterBreak = t.afterBreak
  escaped : t'.escaped = t.escaped
  text : t'.text = t.text
  spelling : ∃ spelling, t.here = spelling ++ t.rest ∧ t'.here = spelling ++ t'.rest

/-- A token stands in the place of another. Where that is one of some words, it says the new text of
the word and is no keyword; elsewhere it is the same. -/
inductive Interchanged (words : List Word) (new : Word → String) :
    Manner × Token → Manner × Token → Prop where
  | same {m : Manner} {t t' : Token} (hother : ∀ w ∈ words, w.span ≠ t.span)
      (h : SameToken t t') : Interchanged words new (m, t) (m, t')
  | word {w : Word} {t t' : Token} (hw : w ∈ words) (hspan : w.span = t.span)
      (hbreak : t'.afterBreak = t.afterBreak) (hsaid : t'.Says w.kind (new w))
      (hplain : t'.keyword? = none) : Interchanged words new (.plain, t) (.plain, t')

section Respelled

variable {isModule broken : Bool} {text : List Char} {pos : Nat} {row : List (Manner × Token)}
  {t : Token} {said : String}

/-- A word that stands in the place of another: how it is written, and what it says. -/
structure Respelled where
  spelling : String
  text : String

/-- The name of the loader may stand for an identifier, and a quoted text for a string. -/
inductive Replaces : Respelled → Leaf → Prop where
  | name : Replaces ⟨loaderName, loaderName⟩ .identifier
  | string (s : String) : Replaces ⟨Text.quote s, s⟩ .string

variable {r : Respelled} {kind : Leaf} {c : Char} {rest : List Char}

def WordFront (kind : Leaf) (c : Char) (rest : List Char) : Prop :=
  kind = .identifier ∧ BeginsWord c ∧ NoNamePart rest ∨ kind = .string ∧ IsQuote c

theorem runsOn_of_isIdentifier (h : t.isIdentifier = true) : t.kind.runsOn = true := by
  unfold Token.isIdentifier at h
  split at h
  · next heq => rw [heq]; rfl
  · next heq => rw [heq]; rfl
  · cases h

theorem kind_ne_of_said (h : t.Says kind said) : t.kind ≠ .finish := by
  intro hfinish
  cases kind with
  | identifier => simp [Token.Says, Token.isIdentifier, hfinish] at h
  | string => simp [Token.Says, hfinish] at h
  | _ => cases h

theorem Token.Says.front (h : t.Says kind said)
    (htoken : tokenAt broken ⟨c :: text, pos⟩ = sound t) : WordFront kind c t.rest := by
  obtain ⟨hword, hstring⟩ := front_of_tokenAt htoken
  cases kind with
  | identifier =>
    obtain ⟨hname, -⟩ := h
    refine .inl ⟨rfl, hword ?_⟩
    unfold Token.isIdentifier at hname
    split at hname
    · next heq => simp [Token.isWord, heq]
    · next heq => simp [Token.isWord, heq]
    · cases hname
  | string =>
    obtain ⟨lone, hkind⟩ := h
    exact .inr ⟨rfl, hstring (by simp [Token.isString, hkind])⟩
  | _ => cases h

theorem Replaces.alike (h : Replaces r kind) (hfront : WordFront kind c rest)
    (text rest' : List Char) : Alike (c :: text) (r.spelling.toList ++ rest') := by
  cases h with
  | name =>
    rcases hfront with ⟨-, hc, -⟩ | ⟨⟨⟩, -⟩
    exact .word hc _ _
  | string s =>
    rcases hfront with ⟨⟨⟩, -⟩ | ⟨-, hc⟩
    rw [Text.toList_quote, Text.quoteChars_append]
    exact .quote hc _ _

theorem Replaces.token (h : Replaces r kind)
    (hrest : kind = .identifier → NoNamePart rest ∧ NoWord rest) (broken : Bool) (pos : Nat) :
    ∃ t, tokenAt broken ⟨r.spelling.toList ++ rest, pos⟩ = sound t ∧
      t.rest = rest ∧ t.afterBreak = broken ∧ t.Says kind r.text ∧ t.keyword? = none ∧ t.Apart := by
  cases h with
  | name =>
    obtain ⟨hend, hword⟩ := hrest rfl
    exact ⟨_, tokenAt_loaderName hend broken pos, rfl, rfl, ⟨rfl, rfl⟩, rfl, fun _ => hword⟩
  | string s =>
    rw [Text.toList_quote]
    exact ⟨_, tokenAt_quoted broken s.toList rest pos, rfl, rfl, ⟨false, rfl⟩, rfl, nofun⟩

theorem next_replaced (h : next isModule broken ⟨text, pos⟩ = sound t) (hapart : t.Apart)
    (hsaid : t.Says kind said) (hr : Replaces r kind) :
    ∃ gap spelling, spelling ≠ [] ∧ text = gap ++ (spelling ++ t.rest) ∧
      t.span = ⟨pos + byteLength gap, pos + byteLength gap + byteLength spelling⟩ ∧
      ∀ rest', Alike t.rest rest' →
        Alike (spelling ++ t.rest) (r.spelling.toList ++ rest') ∧
        ∀ pos, ∃ t', next isModule broken ⟨gap ++ (r.spelling.toList ++ rest'), pos⟩ = sound t' ∧
          t'.rest = rest' ∧ t'.afterBreak = t.afterBreak ∧ t'.Says kind r.text ∧
          t'.keyword? = none ∧ t'.Apart := by
  obtain ⟨gap, here, broken', rfl, htoken, hnext⟩ := next_gap h
  have hbreak : t.afterBreak = broken' := by
    have hbroken := (tokenAt_here broken' ⟨here, pos + byteLength gap⟩).2
    rwa [htoken] at hbroken
  cases here with
  | nil =>
    obtain rfl := sound_inj.1 htoken
    exact absurd rfl (kind_ne_of_said hsaid)
  | cons c text =>
    have hfront := Token.Says.front hsaid htoken
    obtain ⟨spelling, rfl, hagain⟩ := tokenAt_again htoken hapart
    have hself := sound_inj.1 (htoken.symm.trans (hagain t.rest _ (.refl _)))
    refine ⟨gap, c :: spelling, nofun, rfl, congrArg Token.span hself, fun rest' halike => ?_⟩
    have halike' := hr.alike hfront (spelling ++ t.rest) rest'
    refine ⟨halike', fun pos => ?_⟩
    have hrest : kind = .identifier → NoNamePart rest' ∧ NoWord rest' := by
      rintro rfl
      have hruns : t.kind.runsOn = true := runsOn_of_isIdentifier hsaid.1
      rcases hfront with ⟨-, -, hend⟩ | ⟨⟨⟩, -⟩
      exact ⟨halike.noNamePart (hapart hruns) hend, halike.noWord (hapart hruns)⟩
    obtain ⟨t', htoken', hrest', hbreak', hsaid', hplain, hapart'⟩ :=
      hr.token hrest broken' (pos + byteLength gap)
    exact ⟨t', (hnext _ pos halike').trans htoken', hrest', hbreak'.trans hbreak.symm, hsaid',
      hplain, hapart'⟩

theorem read_plain (isModule broken : Bool) (at_ : Cursor) :
    Manner.plain.read isModule broken at_ = next isModule broken at_ :=
  Manner.andAgain_eq rfl

variable {swaps : List (Word × Respelled)} {new : Word → String} {row : List (Manner × Token)}

/-- What words of a text give way to is read in their places, and all other tokens as before. The
edits are those at the words that stand in the row. -/
def Respells (swaps : List (Word × Respelled)) (new : Word → String) (isModule broken : Bool)
    (text : List Char) (pos : Nat) (row : List (Manner × Token)) : Prop :=
  ∃ edits text', Substituted pos text edits text' ∧ Alike text text' ∧
    (∀ e, e ∈ edits ↔ ∃ s ∈ swaps, e = ⟨s.1.span, s.2.spelling⟩ ∧
      ∃ e ∈ row, e.2.span = s.1.span) ∧
    ∀ pos, ∃ row', Row isModule broken text' pos row' ∧
      List.Forall₂ (Interchanged (swaps.map Prod.fst) new) row row'

theorem respells_finish (h : next isModule broken ⟨text, pos⟩ = sound t)
    (hkind : t.kind = .finish) : Respells swaps new isModule broken text pos [] := by
  refine ⟨[], text, .nil pos text, .refl text, by simp, fun pos' => ⟨[], ?_, .nil⟩⟩
  have hapart : t.Apart := fun hruns => by simp [hkind, TokenKind.runsOn] at hruns
  obtain ⟨gap, spelling, -, rfl, hread⟩ := Manner.read_again ((read_plain ..).trans h) hapart
  have hagain := hread t.rest pos' (.refl _)
  rw [read_plain] at hagain
  exact .finish hagain hkind

theorem Respells.swapped {s : Word × Respelled} (hnd : (swaps.map (·.1.span)).Nodup)
    (hs : s ∈ swaps) (hnew : new s.1 = s.2.text) (hreplaces : Replaces s.2 s.1.kind)
    (h : next isModule broken ⟨text, pos⟩ = sound t) (hapart : t.Apart)
    (hspan : s.1.span = t.span) (hsaid : t.Says s.1.kind s.1.text)
    (hrest : Respells swaps new isModule false t.rest t.span.stop row) :
    Respells swaps new isModule broken text pos ((.plain, t) :: row) := by
  obtain ⟨edits, rest', hsub, halike, hmem, hrow'⟩ := hrest
  obtain ⟨gap, spelling, hne, rfl, hplace, hreplaced⟩ := next_replaced h hapart hsaid hreplaces
  obtain ⟨hfront, hnext⟩ := hreplaced rest' halike
  rw [hplace] at hsub
  have hwhole := Substituted.cons gap hne s.2.spelling hsub
  rw [← hplace, ← hspan, List.append_assoc, List.append_assoc] at hwhole
  refine ⟨_, _, hwhole, hfront.append gap, fun e => ?_, fun pos' => ?_⟩
  · constructor
    · intro he
      rcases List.mem_cons.1 he with rfl | he
      · exact ⟨s, hs, rfl, _, List.mem_cons_self, hspan.symm⟩
      · obtain ⟨s', hs', heq, e', he', hspan'⟩ := (hmem e).1 he
        exact ⟨s', hs', heq, e', List.mem_cons_of_mem _ he', hspan'⟩
    · rintro ⟨s', hs', rfl, e', he', hspan'⟩
      rcases List.mem_cons.1 he' with rfl | he'
      · obtain rfl := List.inj_on_of_nodup_map hnd hs' hs (hspan'.symm.trans hspan.symm)
        exact List.mem_cons_self
      · exact List.mem_cons_of_mem _ ((hmem _).2 ⟨s', hs', rfl, e', he', hspan'⟩)
  · obtain ⟨t', hnext', hrest', hbreak, hsaid', hplain, hapart'⟩ := hnext pos'
    obtain ⟨row', hrow', hforall⟩ := hrow' t'.span.stop
    refine ⟨(.plain, t') :: row', ?_, .cons ?_ hforall⟩
    · have hchild : Manner.plain ≠ .child := by simp
      exact .token ((read_plain ..).trans hnext') (kind_ne_of_said hsaid') hapart'
        (fun h => absurd h hchild) (hrest' ▸ hrow')
    · exact .word (List.mem_map_of_mem hs) hspan hbreak (hnew ▸ hsaid') hplain

theorem Respells.kept {m : Manner} (hother : ∀ s ∈ swaps, s.1.span ≠ t.span)
    (h : m.read isModule broken ⟨text, pos⟩ = sound t) (hkind : t.kind ≠ .finish)
    (hapart : t.Apart) (hchild : m = .child → broken = false)
    (hrest : Respells swaps new isModule false t.rest t.span.stop row) :
    Respells swaps new isModule broken text pos ((m, t) :: row) := by
  obtain ⟨edits, rest', hsub, halike, hmem, hrow'⟩ := hrest
  obtain ⟨gap, spelling, -, rfl, hread⟩ := Manner.read_again h hapart
  have hself := FoundAgain.span_eq rfl h hread
  have hplace : t.span.stop = pos + byteLength (gap ++ spelling) := by
    rw [congrArg Token.span hself, byteLength_append, ← Nat.add_assoc]
    rfl
  rw [hplace] at hsub
  rw [← List.append_assoc]
  refine ⟨edits, _, hsub.behind, halike.append _, fun e => ?_, fun pos' => ?_⟩
  · have hmore {s : Word × Respelled} (hs : s ∈ swaps) :
        (∃ e ∈ (m, t) :: row, e.2.span = s.1.span) ↔ ∃ e ∈ row, e.2.span = s.1.span := by
      rw [List.exists_mem_cons_iff, or_iff_right fun h => hother s hs h.symm]
    rw [hmem]
    exact exists_congr fun s => and_congr_right fun hs =>
      and_congr_right fun _ => (hmore hs).symm
  · obtain ⟨row', hrow', hforall⟩ := hrow' (pos' + byteLength gap + byteLength spelling)
    refine ⟨(m, t.placed spelling rest' (pos' + byteLength gap)) :: row', ?_, .cons ?_ hforall⟩
    · rw [List.append_assoc]
      refine .token (hread rest' pos' halike) hkind (fun hruns => ?_) hchild hrow'
      exact halike.noWord (hapart hruns)
    · refine .same ?_ ⟨rfl, rfl, rfl, rfl, spelling, congrArg Token.here hself, rfl⟩
      intro w hw
      obtain ⟨s, hs, rfl⟩ := List.mem_map.1 hw
      exact hother s hs

theorem Row.respelled (hnd : ((swaps.map Prod.fst).map Word.span).Nodup)
    (hnew : ∀ s ∈ swaps, new s.1 = s.2.text ∧ Replaces s.2 s.1.kind)
    (h : Row isModule broken text pos row)
    (hrow : ∀ e ∈ row, ∀ s ∈ swaps, s.1.span = e.2.span →
      e.1 = .plain ∧ e.2.Says s.1.kind s.1.text) :
    Respells swaps new isModule broken text pos row := by
  rw [List.map_map] at hnd
  induction h with
  | finish h hkind => exact respells_finish h hkind
  | @token broken text pos m t row h hkind hapart hchild _ ih =>
    have hrest := ih fun e he => hrow e (List.mem_cons_of_mem _ he)
    by_cases hs : ∃ s ∈ swaps, s.1.span = t.span
    · obtain ⟨s, hs, hspan⟩ := hs
      obtain ⟨rfl, hsaid⟩ := hrow _ List.mem_cons_self s hs hspan
      obtain ⟨hnew, hreplaces⟩ := hnew s hs
      rw [read_plain] at h
      exact hrest.swapped hnd hs hnew hreplaces h hapart hspan hsaid
    · exact hrest.kept (fun s hs' hspan => hs ⟨s, hs', hspan⟩) h hkind hapart hchild

theorem Row.exchanged (hnd : ((swaps.map Prod.fst).map Word.span).Nodup)
    (hnew : ∀ s ∈ swaps, new s.1 = s.2.text ∧ Replaces s.2 s.1.kind)
    (h : Row isModule broken text pos row)
    (hwords : ∀ s ∈ swaps, ∃ t, (.plain, t) ∈ row ∧ t.span = s.1.span ∧
      t.Says s.1.kind s.1.text) :
    ∃ edits text', Substituted pos text edits text' ∧
      edits.Perm (swaps.map fun s => ⟨s.1.span, s.2.spelling⟩) ∧ Alike text text' ∧
      ∀ pos, ∃ row', Row isModule broken text' pos row' ∧
        List.Forall₂ (Interchanged (swaps.map Prod.fst) new) row row' := by
  have hrow (e : Manner × Token) (he : e ∈ row) (s : Word × Respelled) (hs : s ∈ swaps)
      (hspan : s.1.span = e.2.span) : e.1 = .plain ∧ e.2.Says s.1.kind s.1.text := by
    obtain ⟨t, ht, hspan', hsaid⟩ := hwords s hs
    obtain rfl := List.inj_on_of_nodup_map h.nodup he ht (hspan.symm.trans hspan'.symm)
    exact ⟨rfl, hsaid⟩
  obtain ⟨edits, text', hsub, halike, hmem, hrow'⟩ := Row.respelled hnd hnew h hrow
  refine ⟨edits, text', hsub, ?_, halike, hrow'⟩
  have hedits : edits.Nodup := hsub.separate.nodup.of_map _
  have hswaps : (swaps.map fun s => (⟨s.1.span, s.2.spelling⟩ : Edit)).Nodup := by
    refine List.Nodup.of_map Edit.span ?_
    rw [List.map_map] at hnd ⊢
    exact hnd
  refine (List.perm_ext_iff_of_nodup hedits hswaps).2 fun e => ?_
  rw [hmem, List.mem_map]
  refine exists_congr fun s => and_congr_right fun hs => ?_
  obtain ⟨t, ht, hspan, -⟩ := hwords s hs
  exact ⟨fun h => h.1.symm, fun heq => ⟨heq.symm, _, ht, hspan⟩⟩

end Respelled

/-- A text as the row of its tokens, behind a hashbang if the text begins with one. The row starts
on a line of its own. -/
inductive Reads (isModule : Bool) (text : List Char) :
    Option Span → List (Manner × Token) → Prop where
  | plain {row : List (Manner × Token)} (h : ¬ HasHashbang text)
      (hrow : Row isModule true text 0 row) : Reads isModule text none row
  | hashbang {row : List (Manner × Token)} {t : Token} (h : HasHashbang text)
      (hfirst : first isModule text = sound t) (hrow : Row isModule true t.rest t.span.stop row) :
      Reads isModule text (some t.span) row

theorem Reads.nodup {isModule : Bool} {text : List Char} {sign : Option Span}
    {row : List (Manner × Token)} (h : Reads isModule text sign row) :
    (row.map (·.2.span)).Nodup := by
  cases h with
  | plain _ hrow => exact hrow.nodup
  | hashbang _ _ hrow => exact hrow.nodup

section Hashbang

variable {isModule : Bool} {text line rest : List Char} {row : List (Manner × Token)} {t : Token}

theorem first_hashbang (h : HasHashbang text) (hfirst : first isModule text = sound t) :
    ∃ line, text = '#' :: '!' :: (line ++ t.rest) ∧ (∀ c ∈ line, isLineBreak c = false) ∧
      (∀ c, t.rest.head? = some c → isLineBreak c = true) ∧
      t.kind = .hashbang ∧ t.span = ⟨0, 2 + byteLength line⟩ := by
  obtain ⟨body, rfl⟩ := h
  rcases hline : Cursor.takeWhile (fun c => !isLineBreak c) [] body 2 with ⟨taken, ⟨rest, stop⟩⟩
  obtain ⟨line, rfl, hall, hend, hread⟩ := takeWhile_spelling hline
  obtain ⟨-, hstop⟩ := Prod.mk.inj ((hread rest 2 hend).symm.trans hline)
  obtain rfl : 2 + byteLength line = stop := congrArg Cursor.pos hstop
  have hsound : first isModule ('#' :: '!' :: (line ++ rest)) = sound t := hfirst
  simp only [first, hline] at hsound
  obtain rfl := sound_inj.1 hsound
  exact ⟨line, rfl, fun c hc => by simpa using hall c hc, fun c hc => by simpa using hend c hc,
    rfl, rfl⟩

theorem Row.underComment (hline : ∀ c ∈ line, isLineBreak c = false)
    (hrest : ∀ c, rest.head? = some c → isLineBreak c = true)
    (h : Row isModule true rest (2 + byteLength line) row) :
    Row isModule true ('/' :: '/' :: (line ++ rest)) 0 row := by
  have hskip (broken : Bool) :
      skipGap isModule .between broken ('/' :: '/' :: (line ++ rest)) 0 =
        skipGap isModule .between broken rest (2 + byteLength line) :=
    skipGap_line hline hrest broken 2
  have hnext (broken : Bool) : next isModule broken ⟨'/' :: '/' :: (line ++ rest), 0⟩ =
      next isModule broken ⟨rest, 2 + byteLength line⟩ := by
    simp only [next, hskip]
  cases h with
  | finish h hkind => exact .finish ((hnext true).trans h) hkind
  | @token _ _ _ m t row h hkind hapart hchild hmore =>
    refine .token (Eq.trans ?_ h) hkind hapart hchild hmore
    cases m with
    | child => cases hchild rfl
    | value => simp only [Manner.read, attributeValue, hskip, hnext]
    | plain | regexp | template | markupName | greater | less => simp only [Manner.read, hnext]

end Hashbang

end ModuleBundler.Script
