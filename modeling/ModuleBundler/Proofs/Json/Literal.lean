import ModuleBundler.Proofs.Json.Settled
import ModuleBundler.Proofs.Script.Operand

/-! A document as a literal of the script language: its text is read as one expression without
operators, whatever the document holds, and the tree of that expression is known. -/
namespace ModuleBundler.Json

open Script Script.Parser
open Script.Grammar (nested)

section Tree

def memberText (m : String × Json) : List Char :=
  Text.quoteChars m.1.toList ++ ':' :: m.2.compact

/-- The tree of a number. The grammar knows no numbers below zero, only a sign before one. -/
def numberTree (pos : Nat) : List Char → Node
  | '-' :: more =>
    .branch .unary ⟨pos, pos + 1 + byteLength more⟩
      [.leaf .number ⟨pos + 1, pos + 1 + byteLength more⟩ ""]
  | text => .leaf .number ⟨pos, pos + byteLength text⟩ ""

def constantTree (pos : Nat) (word : String) : Node :=
  .leaf .constant ⟨pos, pos + byteLength word.toList⟩ word

mutual

def tree (pos : Nat) : Json → Node
  | null => constantTree pos "null"
  | bool true => constantTree pos "true"
  | bool false => constantTree pos "false"
  | number n => numberTree pos n.text
  | string s => .leaf .string ⟨pos, pos + byteLength (Text.quoteChars s.toList)⟩ s
  | array items => .branch .array ⟨pos, listStop compact items pos⟩ (treeItems (pos + 1) items)
  | object members =>
    .branch .object ⟨pos, listStop memberText members pos⟩ (treeMembers (pos + 1) members)

def treeItems (pos : Nat) : List Json → List Node
  | [] => []
  | v :: more => tree pos v :: treeItems (pos + byteLength v.compact + 1) more

def treeMembers (pos : Nat) : List (String × Json) → List Node
  | [] => []
  | (k, v) :: more =>
    .branch .property ⟨pos, pos + byteLength (memberText (k, v))⟩
      [.leaf .text ⟨pos, pos + byteLength (Text.quoteChars k.toList)⟩ k,
        tree (pos + byteLength (Text.quoteChars k.toList) + 1) v] ::
      treeMembers (pos + byteLength (memberText (k, v)) + 1) more

end

def memberTree (pos : Nat) (m : String × Json) : Node :=
  .branch .property ⟨pos, pos + byteLength (memberText m)⟩
    [.leaf .text ⟨pos, pos + byteLength (Text.quoteChars m.1.toList)⟩ m.1,
      tree (pos + byteLength (Text.quoteChars m.1.toList) + 1) m.2]

theorem treeItems_eq (pos : Nat) (items : List Json) :
    treeItems pos items = nodesFrom compact tree pos items := by
  induction items generalizing pos with
  | nil => rfl
  | cons v more ih => rw [treeItems, ih, nodesFrom]

theorem treeMembers_eq (pos : Nat) (members : List (String × Json)) :
    treeMembers pos members = nodesFrom memberText memberTree pos members := by
  induction members generalizing pos with
  | nil => rfl
  | cons m more ih => rw [treeMembers, ih, nodesFrom, memberTree]

theorem tree_induction {P : Node → Prop} (leaf : ∀ kind span text, P (.leaf kind span text))
    (branch : ∀ kind span parts, kind ≠ .shorthand → (∀ m ∈ parts, P m) →
      P (.branch kind span parts)) (v : Json) (pos : Nat) : P (tree pos v) := by
  induction v using Json.induction generalizing pos with
  | null => exact leaf ..
  | bool b => cases b <;> exact leaf ..
  | number n =>
    rw [tree]
    unfold numberTree
    split
    · exact branch _ _ _ nofun fun m hm => List.mem_singleton.1 hm ▸ leaf ..
    · exact leaf ..
  | string s => exact leaf ..
  | array items ih =>
    rw [tree, treeItems_eq]
    refine branch _ _ _ nofun fun m hm => ?_
    obtain ⟨v, hv, pos, rfl⟩ := mem_nodesFrom hm
    exact ih v hv pos
  | object members ih =>
    rw [tree, treeMembers_eq]
    refine branch _ _ _ nofun fun m hm => ?_
    obtain ⟨member, hmember, pos, rfl⟩ := mem_nodesFrom hm
    refine branch _ _ _ nofun fun part hpart => ?_
    rcases List.mem_cons.1 hpart with rfl | hpart
    · exact leaf ..
    · exact List.mem_singleton.1 hpart ▸ ih member hmember _

end Tree

section Texts

variable {α : Type} {text : α → List Char} {items : List α}

theorem listText_cons_cons (text : α → List Char) (a b : α) (more : List α) :
    listText text (a :: b :: more) = text a ++ ',' :: listText text (b :: more) := by
  simp [listText, furtherText]

theorem listText_compact (items : List Json) : listText compact items = compactItems items := by
  induction items with
  | nil => rfl
  | cons v more ih =>
    cases more with
    | nil => simp [listText, furtherText, compactItems]
    | cons w more => rw [listText_cons_cons, ih, compactItems.eq_3 v (w :: more) (by simp)]

theorem listText_members (members : List (String × Json)) :
    listText memberText members = compactMembers members := by
  induction members with
  | nil => rfl
  | cons m more ih =>
    cases more with
    | nil => simp [listText, furtherText, compactMembers, memberText]
    | cons n more =>
      rw [listText_cons_cons, ih, compactMembers.eq_3 m.1 m.2 (n :: more) (by simp), memberText,
        List.append_assoc, List.cons_append]

theorem compact_array (items : List Json) :
    compact (array items) = '[' :: (listText compact items ++ [']']) := by
  rw [compact, listText_compact]

theorem compact_object (members : List (String × Json)) :
    compact (object members) = '\x7b' :: (listText memberText members ++ ['\x7d']) := by
  rw [compact, listText_members]

theorem length_lt_furtherText {a : α} (h : a ∈ items) :
    (text a).length < (furtherText text items).length := by
  obtain ⟨before, after, rfl⟩ := List.append_of_mem h
  simp only [furtherText, List.flatMap_append, List.flatMap_cons, List.length_append,
    List.length_cons]
  omega

theorem length_items_le_furtherText (text : α → List Char) (items : List α) :
    items.length ≤ (furtherText text items).length := by
  induction items with
  | nil => exact Nat.zero_le _
  | cons a more ih =>
    rw [furtherText] at ih
    simp only [furtherText, List.flatMap_cons, List.length_append, List.length_cons]
    omega

theorem length_le_listText (text : α → List Char) {a : α} (h : a ∈ items) :
    (text a).length ≤ (listText text items).length := by
  obtain ⟨b, more, rfl⟩ := List.exists_cons_of_ne_nil (List.ne_nil_of_mem h)
  rw [listText, List.length_append]
  rcases List.mem_cons.1 h with rfl | h
  · exact Nat.le_add_right _ _
  · exact (length_lt_furtherText h).le.trans (Nat.le_add_left _ _)

theorem length_items_le (text : α → List Char) (items : List α) :
    items.length ≤ (listText text items).length + 1 := by
  cases items with
  | nil => exact Nat.zero_le _
  | cons a more =>
    have hmore := length_items_le_furtherText text more
    simp only [listText, List.length_cons, List.length_append]
    omega

end Texts

section Read

variable {d : Dialect} {n : Nat}

theorem ending_of_ended {rest : List Char} {m : Mark} (h : Ended rest m) : Ending (.mark m) := by
  obtain ⟨c, more, -, hc⟩ := h
  simp only [endings, List.mem_cons, Prod.mk.injEq, List.not_mem_nil, or_false] at hc
  rcases hc with ⟨-, rfl⟩ | ⟨-, rfl⟩ | ⟨-, rfl⟩ | ⟨-, rfl⟩ <;> constructor

theorem numeric_or_minus {x : JsonNumber} (h : x.InRange) :
    Decimal.Numeric x.text ∨ ∃ text, x.text = '-' :: text ∧ Decimal.Numeric text := by
  cases x with
  | natural k => exact .inl (Decimal.whole_toDigits k).numeric
  | negative k => exact .inr ⟨_, rfl, (Decimal.whole_toDigits k).numeric⟩
  | float x =>
    obtain ⟨text, htext, hnumeric⟩ := Decimal.exists_numeric_text JsonNumber.layout h
    cases hsign : x.negative with
    | true => exact .inr ⟨text, by simpa [JsonNumber.text, hsign] using htext, hnumeric⟩
    | false => exact .inl (by simpa [JsonNumber.text, htext, hsign] using hnumeric)

theorem numberTree_numeric {text : List Char} (h : Decimal.Numeric text) (pos : Nat) :
    numberTree pos text = .leaf .number ⟨pos, pos + byteLength text⟩ "" := by
  obtain ⟨c, more, rfl, hc⟩ := h.exists_cons
  refine numberTree.eq_2 pos (c :: more) ?_
  rintro more' ⟨⟩
  cases hc

theorem readsItem_of_primary {v : Json} (h : ∀ (s : State) pos rest m, s.context.Calm →
      Ended rest m → Literal (s.facing d (v.compact ++ rest) pos).token.kind ∧
        Clear (v.compact ++ rest) ∧
        (nested d (n + 2)).primary (s.facing d (v.compact ++ rest) pos) =
          .ok (tree pos v) (s.reaching d rest (pos + byteLength v.compact))) :
    ReadsItem d ((nested d (n + 6)).assignment true) compact tree v := by
  intro s pos rest m hc hrest
  obtain ⟨hliteral, hclear, hprimary⟩ := h s pos rest m hc hrest
  refine ⟨.starting (.literal hliteral), hclear,
    run_assignment_primary (.literal hliteral) hliteral.ne_parenOpen hprimary ?_ true⟩
  rw [reaching_eq, kind_facing_ended hrest]
  exact ending_of_ended hrest

theorem readsItem_constant {v : Json} {word : String} {k : Keyword}
    (hword : (word, k) ∈ constants) (htext : v.compact = word.toList)
    (htree : ∀ pos, tree pos v = constantTree pos word) :
    ReadsItem d ((nested d (n + 6)).assignment true) compact tree v := by
  refine readsItem_of_primary fun s pos rest m _ hrest => ?_
  have hfront := fronts_constant hword hrest
  rw [htext, htree]
  refine ⟨?_, hfront.clear, run_primary_constant hword hfront hrest.clear⟩
  rw [hfront.kind_facing]
  simp only [constants, List.mem_cons, Prod.mk.injEq, List.not_mem_nil, or_false] at hword
  rcases hword with ⟨-, rfl⟩ | ⟨-, rfl⟩ | ⟨-, rfl⟩ <;> constructor

theorem readsItem_number {x : JsonNumber} (hx : x.InRange) :
    ReadsItem d ((nested d (n + 7)).assignment true) compact tree (number x) := by
  rcases numeric_or_minus hx with hnumeric | ⟨text, htext, hnumeric⟩
  · refine readsItem_of_primary (n := n + 1) fun s pos rest m _ hrest => ?_
    have hfront := fronts_number hnumeric hrest
    rw [compact, tree, numberTree_numeric hnumeric]
    exact ⟨hfront.kind_facing ▸ .number, hfront.clear, run_primary_number hfront hrest.clear⟩
  · intro s pos rest m _ hrest
    have hfront := fronts_number hnumeric hrest
    have hminus := fronts_minus hnumeric rest
    have hended (s : State) :
        Ending (s.reaching d rest (pos + 1 + byteLength text)).token.kind := by
      rw [reaching_eq, kind_facing_ended hrest]
      exact ending_of_ended hrest
    have hrun := run_assignment_minus (d := d) (n := n) (s := s.facing d _ pos) hminus.kind_facing
      (run_advance_front hminus hfront.clear pos) (hfront.kind_facing ▸ .literal .number)
      (run_primary_number hfront hrest.clear) (hended _) true
    rw [compact, tree, htext, numberTree, byteLength_cons, ← Nat.add_assoc]
    refine ⟨hminus.kind_facing ▸ .minus, hminus.clear, hrun.trans ?_⟩
    rw [hminus.token_facing]
    rfl

theorem readsItem_string (text : String) :
    ReadsItem d ((nested d (n + 6)).assignment true) compact tree (string text) := by
  refine readsItem_of_primary fun s pos rest m _ hrest => ?_
  have hfront := fronts_string text rest
  rw [compact, tree]
  exact ⟨hfront.kind_facing ▸ .string _ _, hfront.clear, run_primary_text text hrest.clear⟩

theorem byteLength_list {α : Type} {c c' : Char} (h : c.utf8Size = 1) (h' : c'.utf8Size = 1)
    (text : α → List Char) (items : List α) (pos : Nat) :
    pos + byteLength (c :: (listText text items ++ [c'])) = listStop text items pos := by
  simp only [listStop, byteLength_cons, byteLength_append, byteLength_nil, h, h']
  omega

theorem readsItem_array {items : List Json} (hcount : items.length ≤ n)
    (h : ∀ v ∈ items, ReadsItem d ((nested d (n + 1)).assignment true) compact tree v) :
    ReadsItem d ((nested d (n + 6)).assignment true) compact tree (array items) := by
  refine readsItem_of_primary fun s pos rest m hc hrest => ?_
  have hopen : ('[', Mark.bracketOpen) ∈ singles := by simp [singles, endings]
  have hitems : ∀ v ∈ items, ReadsItem d (arrayItem (nested d (n + 1))) compact tree v := by
    intro v hv s pos rest m hc hrest
    obtain ⟨hsigned, hclear, hrun⟩ := h v hv s pos rest m hc hrest
    exact ⟨hsigned, hclear, run_arrayItem hc hsigned hrun rfl⟩
  have hprimary := run_primary_array hitems hc hcount hrest.clear pos
  rw [compact_array, byteLength_list rfl rfl, tree, treeItems_eq, List.cons_append,
    List.append_assoc]
  refine ⟨?_, clear_single hopen _, hprimary⟩
  rw [token_facing_single hopen]
  exact .bracketOpen

theorem readsItem_member {key : String} {v : Json}
    (h : ReadsItem d ((nested d (n + 2)).assignment true) compact tree v) :
    ReadsItem d (objectItem (nested d (n + 2))) memberText memberTree (key, v) := by
  intro s pos rest m hc hrest
  obtain ⟨-, hclear, hrun⟩ := h (s.behind (pos + byteLength (Text.quoteChars key.toList) + 1))
    (pos + byteLength (Text.quoteChars key.toList) + 1) rest m hc hrest
  have hfront := fronts_string key (':' :: (v.compact ++ rest))
  have hitem := run_objectItem_text hc key hclear hrun
  have hlength : pos + byteLength (memberText (key, v)) =
      pos + byteLength (Text.quoteChars key.toList) + 1 + byteLength v.compact := by
    have hcolon : ':'.utf8Size = 1 := rfl
    simp only [memberText, byteLength_append, byteLength_cons, hcolon]
    omega
  rw [memberTree, hlength, memberText, List.append_assoc, List.cons_append]
  exact ⟨.starting (.literal (hfront.kind_facing ▸ .string _ _)), hfront.clear, hitem⟩

theorem readsItem_object {members : List (String × Json)} (hcount : members.length ≤ n + 1)
    (h : ∀ m ∈ members, ReadsItem d ((nested d (n + 2)).assignment true) compact tree m.2) :
    ReadsItem d ((nested d (n + 7)).assignment true) compact tree (object members) := by
  refine readsItem_of_primary (n := n + 1) fun s pos rest m hc hrest => ?_
  have hopen : ('\x7b', Mark.braceOpen) ∈ singles := by simp [singles, endings]
  have hprimary := run_primary_object (fun m hm => readsItem_member (h m hm)) hc hcount
    hrest.clear pos
  rw [compact_object, byteLength_list rfl rfl, tree, treeMembers_eq, List.cons_append,
    List.append_assoc]
  refine ⟨?_, clear_single hopen _, hprimary⟩
  rw [token_facing_single hopen]
  exact .braceOpen

/-- A document is read from its text with as much nesting as the text has characters. -/
theorem readsItem_value {levels : Nat} {v : Json} (h : Within JsonNumber.InRange levels v)
    (hfuel : 5 * v.compact.length + 7 ≤ n) :
    ReadsItem d ((nested d n).assignment true) compact tree v := by
  obtain ⟨n, rfl⟩ := Nat.exists_eq_add_of_le' ((Nat.le_add_left 7 _).trans hfuel)
  induction h generalizing n with
  | null levels =>
    exact readsItem_constant (n := n + 1) (k := .nullWord) (by decide) rfl fun _ => rfl
  | bool levels b =>
    cases b with
    | true => exact readsItem_constant (n := n + 1) (k := .trueWord) (by decide) rfl fun _ => rfl
    | false => exact readsItem_constant (n := n + 1) (k := .falseWord) (by decide) rfl fun _ => rfl
  | number levels hx => exact readsItem_number hx
  | string levels text => exact readsItem_string (n := n + 1) text
  | @array levels _ items hitems ih =>
    rw [compact_array] at hfuel
    simp only [List.length_cons, List.length_append, List.length_nil] at hfuel
    have hcount := length_items_le compact items
    refine readsItem_array (n := n + 1) (by omega) fun v hv => ?_
    -- an item has a shorter text than the list, so there are levels enough for it
    have hlength := length_le_listText compact hv
    obtain ⟨k, hk⟩ := Nat.exists_eq_add_of_le' (show 7 ≤ n + 2 by omega)
    rw [hk]
    exact ih v hv k (by omega)
  | @object levels _ members hmembers ih =>
    rw [compact_object] at hfuel
    simp only [List.length_cons, List.length_append, List.length_nil] at hfuel
    have hcount := length_items_le memberText members
    refine readsItem_object (by omega) fun m hm => ?_
    have hlength := length_le_listText memberText hm
    rw [memberText, List.length_append, List.length_cons] at hlength
    obtain ⟨k, hk⟩ := Nat.exists_eq_add_of_le' (show 7 ≤ n + 2 by omega)
    rw [hk]
    exact ih m hm k (by omega)

end Read

end ModuleBundler.Json
