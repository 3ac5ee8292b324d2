import ModuleBundler.Proofs.Script.Front
import ModuleBundler.Proofs.Script.Phrase

/-! Operands without operators, in any dialect without types: literals, lists and objects, from the
text that is under the eye to the text behind them. -/
namespace ModuleBundler.Script

open Grammar (nested)

/-- The state when the first token of a text that goes on from a place is under the eye. -/
def State.facing (s : State) (d : Dialect) (text : List Char) (pos : Nat) : State :=
  { s with token := (Lexer.next d.isModule false ⟨text, pos⟩).token }

def State.behind (s : State) (pos : Nat) : State := { s with lastStop := pos }

def State.reaching (s : State) (d : Dialect) (text : List Char) (pos : Nat) : State :=
  (s.behind pos).facing d text pos

section Facing

variable (s : State) (d : Dialect) (text : List Char) (pos pos' : Nat)

@[simp] theorem reaching_eq :
    s.reaching d text pos = (s.behind pos).facing d text pos := rfl

@[simp] theorem context_facing : (s.facing d text pos).context = s.context := rfl

@[simp] theorem context_behind : (s.behind pos).context = s.context := rfl

@[simp] theorem lastStop_facing : (s.facing d text pos).lastStop = s.lastStop := rfl

@[simp] theorem lastStop_behind : (s.behind pos).lastStop = pos := rfl

@[simp] theorem behind_behind : (s.behind pos).behind pos' = s.behind pos' := rfl

@[simp] theorem faults_facing : (s.facing d text pos).faults = s.faults := rfl

@[simp] theorem faults_behind : (s.behind pos).faults = s.faults := rfl

variable {s d pos} {spelling rest name : List Char} {kind : TokenKind}

theorem Fronts.token_facing (h : Fronts spelling rest kind name) :
    (s.facing d (spelling ++ rest) pos).token = frontToken kind name spelling rest pos := by
  rw [State.facing, h]
  rfl

theorem Fronts.kind_facing (h : Fronts spelling rest kind name) :
    (s.facing d (spelling ++ rest) pos).token.kind = kind := by
  rw [h.token_facing]
  rfl

end Facing

theorem Signed.ne_ended {kind : TokenKind} {rest : List Char} {mark : Mark} (h : Signed kind)
    (hrest : Ended rest mark) :
    kind ≠ .mark mark := by
  obtain ⟨c, more, -, hc⟩ := hrest
  simp only [endings, List.mem_cons, Prod.mk.injEq, List.not_mem_nil, or_false] at hc
  rintro rfl
  rcases h with ⟨⟨⟨⟩⟩ | ⟨⟨⟩⟩⟩ <;> simp at hc

namespace Parser

variable {d : Dialect} {n : Nat} {s s' s₁ : State} {m : Node} {kind : TokenKind}
  {spelling rest name : List Char} {pos : Nat}

theorem run_advanceName_to (hrest : s.token.rest = rest) (hstop : s.token.span.stop = pos)
    (hclear : Clear rest) :
    advanceName (nested d n) s = .ok ⟨⟩ (s.reaching d rest pos) := by
  have haccept : accept (Lexer.next d.isModule false ⟨rest, pos⟩) s =
      .ok ⟨⟩ (s.reaching d rest pos) := by
    simp only [accept, run_modify, hclear d.isModule pos, hstop]
    rfl
  simp [advanceName, afterToken, hrest, hstop, haccept]

theorem run_advance_to (hplain : s.token.Plain) (hrest : s.token.rest = rest)
    (hstop : s.token.span.stop = pos) (hclear : Clear rest) :
    advance (nested d n) s = .ok ⟨⟩ (s.reaching d rest pos) := by
  have hnot : ¬ (s.token.escaped = true ∧ s.token.keyword?.isSome = true) := hplain
  simp [advance, hnot, run_advanceName_to hrest hstop hclear]

theorem run_advance_front (h : Fronts spelling rest kind name) (hclear : Clear rest) (pos : Nat) :
    advance (nested d n) (s.facing d (spelling ++ rest) pos) =
      .ok ⟨⟩ (s.reaching d rest (pos + byteLength spelling)) := by
  refine run_advance_to ?_ ?_ ?_ hclear
  all_goals rw [h.token_facing]
  · rintro ⟨hescaped, -⟩
    cases hescaped
  · rfl
  · rfl

theorem token_facing_single {c : Char} {mark : Mark} (h : (c, mark) ∈ singles) :
    (s.facing d (c :: rest) pos).token =
      ⟨.mark mark, ⟨pos, pos + 1⟩, false, false, [], c :: rest, rest⟩ := by
  rw [State.facing, next_single h]
  rfl

theorem kind_facing_ended {mark : Mark} (h : Ended rest mark) :
    (s.facing d rest pos).token.kind = .mark mark := by
  obtain ⟨c, more, rfl, hc⟩ := h
  rw [token_facing_single (List.mem_append_left _ hc)]

theorem run_advance_single {c : Char} {mark : Mark} (h : (c, mark) ∈ singles)
    (hclear : Clear rest) (pos : Nat) :
    advance (nested d n) (s.facing d (c :: rest) pos) = .ok ⟨⟩ (s.reaching d rest (pos + 1)) := by
  refine run_advance_to ?_ ?_ ?_ hclear
  all_goals rw [token_facing_single h]
  rintro ⟨hescaped, -⟩
  cases hescaped

theorem run_expect_single {c : Char} {mark : Mark} (h : (c, mark) ∈ singles)
    (hclear : Clear rest) (what : String) (pos : Nat) :
    expect (nested d n) mark what (s.facing d (c :: rest) pos) =
      .ok ⟨⟩ (s.reaching d rest (pos + 1)) := by
  simp [expect, eat, token_facing_single h, run_advance_single h hclear]

section Words

theorem run_stringLeaf_front (text : String) (hclear : Clear rest) (leaf : Leaf) (pos : Nat) :
    stringLeaf (nested d n) leaf (s.facing d (Text.quoteChars text.toList ++ rest) pos) =
      .ok (.leaf leaf ⟨pos, pos + byteLength (Text.quoteChars text.toList)⟩ text)
        (s.reaching d rest (pos + byteLength (Text.quoteChars text.toList))) := by
  have hfront := fronts_string text rest
  simp [stringLeaf, run_advance_front hfront hclear, hfront.token_facing, frontToken]

theorem run_primary_text (text : String) (hclear : Clear rest) :
    (nested d (n + 1)).primary (s.facing d (Text.quoteChars text.toList ++ rest) pos) =
      .ok (.leaf .string ⟨pos, pos + byteLength (Text.quoteChars text.toList)⟩ text)
        (s.reaching d rest (pos + byteLength (Text.quoteChars text.toList))) := by
  rw [primary_nested]
  simp [primaryOf, atFunction, atAsyncFunction, (fronts_string text rest).kind_facing,
    run_stringLeaf_front text hclear]

theorem run_primary_number (h : Fronts spelling rest .number []) (hclear : Clear rest) :
    (nested d (n + 1)).primary (s.facing d (spelling ++ rest) pos) =
      .ok (.leaf .number ⟨pos, pos + byteLength spelling⟩ "")
        (s.reaching d rest (pos + byteLength spelling)) := by
  rw [primary_nested]
  simp [primaryOf, atFunction, atAsyncFunction, constant, h.token_facing, frontToken,
    run_advance_front h hclear, wordText]

theorem run_primary_constant {word : String} {k : Keyword} (hword : (word, k) ∈ constants)
    (h : Fronts word.toList rest (.keyword k) word.toList) (hclear : Clear rest) :
    (nested d (n + 1)).primary (s.facing d (word.toList ++ rest) pos) =
      .ok (.leaf .constant ⟨pos, pos + byteLength word.toList⟩ word)
        (s.reaching d rest (pos + byteLength word.toList)) := by
  rw [primary_nested]
  have hadvance := run_advance_front (d := d) (n := n) (s := s) h hclear pos
  simp only [constants, List.mem_cons, Prod.mk.injEq, List.not_mem_nil, or_false] at hword
  rcases hword with ⟨-, rfl⟩ | ⟨-, rfl⟩ | ⟨-, rfl⟩ <;>
    simp [primaryOf, atFunction, atAsyncFunction, constant, h.token_facing, frontToken, hadvance,
      wordText]

end Words

section Lists

variable {α : Type} {item : Parser Node} {text : α → List Char} {node : Nat → α → Node}
  {items : List α} {close : Mark}

def nodesFrom (text : α → List Char) (node : Nat → α → Node) (pos : Nat) : List α → List Node
  | [] => []
  | a :: more => node pos a :: nodesFrom text node (pos + byteLength (text a) + 1) more

theorem mem_nodesFrom {m : Node} {pos : Nat} (h : m ∈ nodesFrom text node pos items) :
    ∃ a ∈ items, ∃ pos, m = node pos a := by
  induction items generalizing pos with
  | nil => cases h
  | cons a more ih =>
    rcases List.mem_cons.1 h with rfl | h
    · exact ⟨a, List.mem_cons_self, pos, rfl⟩
    · obtain ⟨b, hb, heq⟩ := ih h
      exact ⟨b, List.mem_cons_of_mem a hb, heq⟩

/-- A thing is read from its text, which begins as a literal does, wherever the text ends. -/
def ReadsItem (d : Dialect) (item : Parser Node) (text : α → List Char) (node : Nat → α → Node)
    (a : α) : Prop :=
  ∀ (s : State) pos rest m, s.context.Calm → Ended rest m →
    Signed (s.facing d (text a ++ rest) pos).token.kind ∧ Clear (text a ++ rest) ∧
      item (s.facing d (text a ++ rest) pos) =
        .ok (node pos a) (s.reaching d rest (pos + byteLength (text a)))

def furtherText (text : α → List Char) (items : List α) : List Char :=
  items.flatMap fun a => ',' :: text a

theorem ended_furtherText (text : α → List Char) (items : List α) (hrest : Ended rest close) :
    ∃ m, Ended (furtherText text items ++ rest) m := by
  cases items with
  | nil => exact ⟨close, hrest⟩
  | cons a more => exact ⟨.comma, ',', _, rfl, by simp [endings]⟩

def listText (text : α → List Char) : List α → List Char
  | [] => []
  | a :: more => text a ++ furtherText text more

theorem clear_listText (h : ∀ a ∈ items, ReadsItem d item text node a) (hc : s.context.Calm)
    (hrest : Ended rest close) : Clear (listText text items ++ rest) := by
  cases items with
  | nil => exact hrest.clear
  | cons a more =>
    obtain ⟨m, hended⟩ := ended_furtherText text more hrest
    rw [listText, List.append_assoc]
    exact (h a List.mem_cons_self s 0 _ m hc hended).2.1

theorem length_nodesFrom (pos : Nat) : (nodesFrom text node pos items).length = items.length := by
  induction items generalizing pos with
  | nil => rfl
  | cons a more ih => rw [nodesFrom, List.length_cons, ih, List.length_cons]

theorem listed_texts {a : α} {more : List α}
    (h : ∀ b ∈ a :: more, ReadsItem d item text node b) (hc : s.context.Calm)
    (hrest : Ended rest close) (pos : Nat) :
    Listed d n item close (s.facing d (listText text (a :: more) ++ rest) pos)
      (nodesFrom text node pos (a :: more))
      (s.reaching d rest (pos + byteLength (listText text (a :: more)))) := by
  induction more generalizing s a pos with
  | nil =>
    obtain ⟨hsigned, -, hitem⟩ := h a List.mem_cons_self s pos rest close hc hrest
    have htext : listText text [a] = text a := List.append_nil (text a)
    rw [htext]
    exact .last (hsigned.ne_ended hrest) hitem (kind_facing_ended hrest)
  | cons b more ih =>
    obtain ⟨ha, hmore⟩ := List.forall_mem_cons.1 h
    have hcomma : (',', Mark.comma) ∈ singles := by simp [singles, endings]
    have hended : Ended (',' :: (listText text (b :: more) ++ rest)) .comma :=
      ⟨',', _, rfl, by simp [endings]⟩
    obtain ⟨hsigned, -, hitem⟩ := ha s pos _ .comma hc hended
    have hlater := ih (s := s.behind (pos + byteLength (text a) + 1)) hmore hc
      (pos + byteLength (text a) + 1)
    have hadvance := run_advance_single (d := d) (n := n)
      (s := s.behind (pos + byteLength (text a))) hcomma (clear_listText hmore hc hrest)
      (pos + byteLength (text a))
    have htext : listText text (a :: b :: more) ++ rest =
        text a ++ ',' :: (listText text (b :: more) ++ rest) := by
      simp [listText, furtherText]
    have hlength : pos + byteLength (listText text (a :: b :: more)) =
        pos + byteLength (text a) + 1 + byteLength (listText text (b :: more)) := by
      simp [listText, furtherText, Char.utf8Size]
      omega
    rw [htext, hlength]
    exact .next (hsigned.ne_ended hrest) hitem (kind_facing_ended hended) hadvance hlater

theorem run_delimited_texts (h : ∀ a ∈ items, ReadsItem d item text node a)
    (hc : s.context.Calm) (hrest : Ended rest close) (hclose : close ≠ .comma)
    (hcount : items.length ≤ n) (pos : Nat) :
    delimited (nested d (n + 1)) close item
        ((s.behind pos).facing d (listText text items ++ rest) pos) =
      .ok (nodesFrom text node pos items, false)
        (s.reaching d rest (pos + byteLength (listText text items))) := by
  cases items with
  | nil => simp [delimited, listText, nodesFrom, kind_facing_ended hrest]
  | cons a more =>
    exact (listed_texts (s := s.behind pos) h hc hrest pos).run_delimited hclose
      (by rwa [length_nodesFrom])

def listStop (text : α → List Char) (items : List α) (pos : Nat) : Nat :=
  pos + 1 + byteLength (listText text items) + 1

theorem run_primary_array
    (h : ∀ a ∈ items, ReadsItem d (arrayItem (nested d (n + 1))) text node a)
    (hc : s.context.Calm) (hcount : items.length ≤ n) (hclear : Clear rest) (pos : Nat) :
    (nested d (n + 2)).primary (s.facing d ('[' :: (listText text items ++ ']' :: rest)) pos) =
      .ok (.branch .array ⟨pos, listStop text items pos⟩ (nodesFrom text node (pos + 1) items))
        (s.reaching d rest (listStop text items pos)) := by
  have hopen : ('[', Mark.bracketOpen) ∈ singles := by simp [singles, endings]
  have hclose : (']', Mark.bracketClose) ∈ singles := by simp [singles, endings]
  have hended : Ended (']' :: rest) .bracketClose := ⟨']', rest, rfl, by simp [endings]⟩
  have hitems := run_delimited_texts h hc hended (by decide) hcount (pos + 1)
  have hadvance := run_advance_single (d := d) (n := n + 1) (s := s) hopen
    (clear_listText h hc hended) pos
  rw [primary_nested]
  simp [primaryOf, atFunction, atAsyncFunction, token_facing_single hopen, arrayLiteral, hadvance,
    hitems, rememberComma, run_expect_single hclose hclear, listStop]

theorem run_primary_object
    (h : ∀ a ∈ items, ReadsItem d (objectItem (nested d (n + 1))) text node a)
    (hc : s.context.Calm) (hcount : items.length ≤ n) (hclear : Clear rest) (pos : Nat) :
    (nested d (n + 2)).primary
        (s.facing d ('\x7b' :: (listText text items ++ '\x7d' :: rest)) pos) =
      .ok (.branch .object ⟨pos, listStop text items pos⟩ (nodesFrom text node (pos + 1) items))
        (s.reaching d rest (listStop text items pos)) := by
  have hopen : ('\x7b', Mark.braceOpen) ∈ singles := by simp [singles, endings]
  have hclose : ('\x7d', Mark.braceClose) ∈ singles := by simp [singles, endings]
  have hended : Ended ('\x7d' :: rest) .braceClose := ⟨'\x7d', rest, rfl, by simp [endings]⟩
  have hitems := run_delimited_texts h hc hended (by decide) hcount (pos + 1)
  have hadvance := run_advance_single (d := d) (n := n + 1) (s := s) hopen
    (clear_listText h hc hended) pos
  rw [primary_nested]
  simp [primaryOf, atFunction, atAsyncFunction, token_facing_single hopen, objectLiteral, hadvance,
    hitems, rememberComma, run_expect_single hclose hclear, listStop]

theorem run_arrayItem (hc : s.context.Calm) (hs : Signed s.token.kind)
    (h : (nested d n).assignment true s = .ok m s') (hs' : s'.context = s.context) :
    arrayItem (nested d n) s = .ok m s' := by
  have hinside := run_allowingIn hc h hs'
  generalize hk : s.token.kind = k at hs
  rcases hs with ⟨⟨⟨⟩⟩ | ⟨⟨⟩⟩⟩ <;> simp [arrayItem, hk, hinside]

theorem run_objectItem_text (hc : s.context.Calm) (key : String) (hclear : Clear rest)
    {rest' : List Char} {stop : Nat}
    (h : (nested d (n + 2)).assignment true
      ((s.behind (pos + byteLength (Text.quoteChars key.toList) + 1)).facing d rest
        (pos + byteLength (Text.quoteChars key.toList) + 1)) =
        .ok m (s.reaching d rest' stop)) :
    objectItem (nested d (n + 2)) (s.facing d (Text.quoteChars key.toList ++ ':' :: rest) pos) =
      .ok (.branch .property ⟨pos, stop⟩
        [.leaf .text ⟨pos, pos + byteLength (Text.quoteChars key.toList)⟩ key, m])
        (s.reaching d rest' stop) := by
  have hcolon : (':', Mark.colon) ∈ singles := by simp [singles, endings]
  have hfront := fronts_string key (':' :: rest)
  have hkey := run_stringLeaf_front (d := d) (n := n + 2) (s := s) key
    (clear_single hcolon rest) .text pos
  have hadvance := run_advance_single (d := d) (n := n + 2)
    (s := s.behind (pos + byteLength (Text.quoteChars key.toList))) hcolon hclear
    (pos + byteLength (Text.quoteChars key.toList))
  have hitem := run_objectItem (n := n)
    (s := s.facing d (Text.quoteChars key.toList ++ ':' :: rest) pos)
    (.leaf .text ⟨pos, pos + byteLength (Text.quoteChars key.toList)⟩ key)
    (by simp [keyLeaf?, hfront.token_facing, frontToken])
    (by simp [propertyKey, hfront.token_facing, frontToken, hkey])
    (by rw [token_facing_single hcolon]) hadvance (by simpa using hc) h (by simp)
  simpa [hfront.token_facing, frontToken] using hitem

end Lists

end Parser

end ModuleBundler.Script
