import Mathlib.Algebra.BigOperators.Group.List.Basic
import ModuleBundler.Proofs.Json.Range
import ModuleBundler.Proofs.Json.Step

/-! Documents with their texts, however blanks are set between the words: every list and object of
the text is read back item by item, and so is the document. -/
namespace ModuleBundler.Json

/-- The blanks of a text: those before the items, members and closing bracket of a list or object,
by its nesting, and those behind the colon of a member. -/
structure Spacing where
  before : Nat → List Char
  behindColon : List Char
  blank_before : ∀ level, Blank (before level)
  blank_behindColon : Blank behindColon

def separated : List (List Char) → List Char
  | [] => []
  | text :: more => text ++ more.flatMap fun text => ',' :: text

def Spacing.closing (sp : Spacing) (level : Nat) (texts : List (List Char)) : List Char :=
  if texts.isEmpty then [] else sp.before level

def bracketed (opening close : Char) (sp : Spacing) (level : Nat) (texts : List (List Char)) :
    List Char :=
  opening :: (separated texts ++ (sp.closing level texts ++ [close]))

mutual

def written (sp : Spacing) (level : Nat) : Json → List Char
  | null => "null".toList
  | bool true => "true".toList
  | bool false => "false".toList
  | number n => n.text
  | string s => Text.quoteChars s.toList
  | array items => bracketed '[' ']' sp level (writtenItems sp (level + 1) items)
  | object members => bracketed '\x7b' '\x7d' sp level (writtenMembers sp (level + 1) members)

def writtenItems (sp : Spacing) (level : Nat) : List Json → List (List Char)
  | [] => []
  | v :: more => (sp.before level ++ written sp level v) :: writtenItems sp level more

def writtenMembers (sp : Spacing) (level : Nat) : List (String × Json) → List (List Char)
  | [] => []
  | (k, v) :: more =>
    (sp.before level ++ (Text.quoteChars k.toList ++
      ':' :: (sp.behindColon ++ written sp level v))) :: writtenMembers sp level more

end

theorem separated_cons (text : List Char) (more : List (List Char)) :
    separated (text :: more) = text ++ more.flatMap fun text => ',' :: text := rfl

theorem separated_cons_cons (text next : List Char) (more : List (List Char)) :
    separated (text :: next :: more) = text ++ ',' :: separated (next :: more) := rfl

section Tight

def tight : Spacing where
  before _ := []
  behindColon := []
  blank_before _ := .nil
  blank_behindColon := .nil

@[simp] theorem tight_before (level : Nat) : tight.before level = [] := rfl

@[simp] theorem tight_behindColon : tight.behindColon = [] := rfl

@[simp] theorem tight_closing (level : Nat) (texts : List (List Char)) :
    tight.closing level texts = [] :=
  ite_self _

mutual

theorem written_tight (level : Nat) : ∀ v : Json, written tight level v = v.compact
  | null | bool true | bool false | number n | string s => rfl
  | array items => by
    rw [written, compact, bracketed, separated_items_tight, tight_closing]
    rfl
  | object members => by
    rw [written, compact, bracketed, separated_members_tight, tight_closing]
    rfl

theorem separated_items_tight (level : Nat) :
    ∀ items : List Json, separated (writtenItems tight level items) = compactItems items
  | [] => rfl
  | [v] => by simp [writtenItems, separated_cons, compactItems, written_tight level v]
  | v :: w :: more => by
    have hmore := separated_items_tight level (w :: more)
    rw [writtenItems] at hmore
    rw [writtenItems, writtenItems, separated_cons_cons, hmore, written_tight level v,
      compactItems.eq_3 v (w :: more) (by simp)]
    rfl

theorem separated_members_tight (level : Nat) : ∀ members : List (String × Json),
    separated (writtenMembers tight level members) = compactMembers members
  | [] => rfl
  | [(k, v)] => by simp [writtenMembers, separated_cons, compactMembers, written_tight level v]
  | (k, v) :: (l, w) :: more => by
    have hmore := separated_members_tight level ((l, w) :: more)
    rw [writtenMembers] at hmore
    rw [writtenMembers, writtenMembers, separated_cons_cons, hmore, written_tight level v,
      compactMembers.eq_3 k v ((l, w) :: more) (by simp)]
    simp

end

end Tight

section Spread

def spread : Spacing where
  before := indent
  behindColon := [' ']
  blank_before level := by
    intro c hc
    rcases List.mem_cons.1 hc with rfl | hc
    · rfl
    · rw [List.eq_of_mem_replicate hc]
      rfl
  blank_behindColon := by simp [Blank, isBlank]

@[simp] theorem spread_before (level : Nat) : spread.before level = indent level := rfl

@[simp] theorem spread_behindColon : spread.behindColon = [' '] := rfl

mutual

theorem written_spread (level : Nat) : ∀ v : Json, written spread level v = v.pretty level
  | null | bool true | bool false | number n | string s => by rw [written, pretty]
  | array [] | object [] => rfl
  | array (v :: more) => by
    rw [written, pretty, bracketed, separated_items_spread]
    · simp [Spacing.closing, writtenItems]
    · simp
  | object ((k, v) :: more) => by
    rw [written, pretty, bracketed, separated_members_spread]
    · simp [Spacing.closing, writtenMembers]
    · simp

theorem separated_items_spread (level : Nat) :
    ∀ items : List Json, separated (writtenItems spread level items) = prettyItems level items
  | [] => rfl
  | [v] => by simp [writtenItems, separated_cons, prettyItems, written_spread level v]
  | v :: w :: more => by
    have hmore := separated_items_spread level (w :: more)
    rw [writtenItems] at hmore
    rw [writtenItems, writtenItems, separated_cons_cons, hmore, written_spread level v,
      prettyItems.eq_3 level v (w :: more) (by simp)]
    rfl

theorem separated_members_spread (level : Nat) : ∀ members : List (String × Json),
    separated (writtenMembers spread level members) = prettyMembers level members
  | [] => rfl
  | [(k, v)] => by
    simp [writtenMembers, separated_cons, prettyMembers, written_spread level v]
  | (k, v) :: (l, w) :: more => by
    have hmore := separated_members_spread level ((l, w) :: more)
    rw [writtenMembers] at hmore
    rw [writtenMembers, writtenMembers, separated_cons_cons, hmore, written_spread level v,
      prettyMembers.eq_3 level k v ((l, w) :: more) (by simp)]
    simp

end

end Spread

namespace Reader

variable {α σ : Type} {sp : Spacing} {level : Nat} {acc acc' : σ} {texts : List (List Char)}

/-- One after the other, texts are taken by a step that goes on from what came before them. Each
begins, behind its blanks, with a character of some kind. -/
inductive TakesEach (starts : Char → Prop) (step : σ → Reader σ) : σ → List (List Char) → σ → Prop
  | nil (acc : σ) : TakesEach starts step acc [] acc
  | cons {acc next acc' : σ} {gap : List Char} {c : Char} {text : List Char}
    {texts : List (List Char)} (hgap : Blank gap) (hc : starts c)
    (hstep : ∀ rest, Ends rest → Takes (step acc) (c :: text ++ rest) next rest)
    (hmore : TakesEach starts step next texts acc') :
    TakesEach starts step acc ((gap ++ c :: text) :: texts) acc'

theorem blank_closing (sp : Spacing) (level : Nat) (texts : List (List Char)) :
    Blank (sp.closing level texts) := by
  unfold Spacing.closing
  split
  · exact .nil
  · exact sp.blank_before level

theorem length_le_separated (texts : List (List Char)) :
    texts.length ≤ (separated texts).length + 1 := by
  cases texts with
  | nil => exact Nat.zero_le _
  | cons text more =>
    have hmore : more.length ≤ (more.flatMap fun text => ',' :: text).length := by
      rw [List.length_flatMap, ← List.length_map (f := fun text => (',' :: text).length)]
      exact List.length_le_sum_of_one_le _ (by simp)
    rw [separated_cons, List.length_append, List.length_cons]
    omega

section Loop

/-- How a list or an object goes on: up to its closing bracket there is more behind its opening
bracket, and then behind each comma. -/
structure Separates (more : Bool → Reader Bool) (starts : Char → Prop) (close : Char) : Prop where
  ends : ∀ {gap : List Char} (first : Bool) (rest : List Char), Blank gap →
    Takes (more first) (gap ++ close :: rest) false (close :: rest)
  first : ∀ {gap : List Char} {c : Char} (rest : List Char), Blank gap → starts c →
    Takes (more true) (gap ++ c :: rest) true (c :: rest)
  comma : ∀ {gap : List Char} {c : Char} (rest : List Char), Blank gap → starts c →
    Takes (more false) (',' :: (gap ++ c :: rest)) true (c :: rest)

def StartsItem (c : Char) : Prop := isBlank c = false ∧ c ≠ ']'

def StartsMember (c : Char) : Prop := c = '"'

theorem separates_items : Separates moreItems StartsItem ']' where
  ends first rest hgap := (takes_peekValue hgap rfl rest).bind (takes_pure false _)
  first rest hgap hc := by
    obtain ⟨hblank, hclose⟩ := hc
    refine (takes_peekValue hgap hblank rest).bind ?_
    simp only
    exact takes_pure true _
  comma rest hgap hc := by
    obtain ⟨hblank, hclose⟩ := hc
    refine (takes_peekValue .nil rfl _).bind ((takes_eat ',' _).bind ?_)
    refine (takes_peekValue hgap hblank rest).bind ?_
    simp only
    exact takes_pure true _

theorem separates_members : Separates moreMembers StartsMember '\x7d' where
  ends first rest hgap := (takes_peekValue hgap rfl rest).bind (takes_pure false _)
  first rest hgap hc := by
    cases hc
    exact (takes_peekValue hgap rfl rest).bind (takes_pure true _)
  comma rest hgap hc := by
    cases hc
    refine (takes_peekValue .nil rfl _).bind ((takes_eat ',' _).bind ?_)
    exact (takes_peekValue hgap rfl rest).bind (takes_pure true _)

variable {more : Bool → Reader Bool} {step : σ → Reader σ} {starts : Char → Prop} {close : Char}
  {gap rest : List Char} {fuel : Nat}

theorem ends_tail (hgap : Blank gap) (hclose : close ∈ [']', '\x7d']) (texts : List (List Char))
    (rest : List Char) :
    Ends ((texts.flatMap fun text => ',' :: text) ++ (gap ++ close :: rest)) := by
  cases texts with
  | nil =>
    show Ends (gap ++ close :: rest)
    refine .blank_append hgap (.cons ?_ rest)
    rcases List.mem_pair.1 hclose with rfl | rfl <;> decide
  | cons text more => exact .cons (by decide) _

theorem Separates.takes_tail (hmore : Separates more starts close)
    (h : TakesEach starts step acc texts acc') (hgap : Blank gap) (rest : List Char)
    (hclose : close ∈ [']', '\x7d']) (hfuel : texts.length < fuel) :
    Takes (loop more step fuel false acc)
      ((texts.flatMap fun text => ',' :: text) ++ (gap ++ close :: rest)) acc' (close :: rest) := by
  induction h generalizing fuel with
  | nil acc =>
    obtain ⟨fuel, rfl⟩ := Nat.exists_eq_succ_of_ne_zero (Nat.ne_of_gt hfuel)
    exact (hmore.ends false rest hgap).bind (takes_pure acc _)
  | @cons acc next acc' gap' c text texts hgap' hc hstep _ ih =>
    obtain ⟨fuel, rfl⟩ := Nat.exists_eq_succ_of_ne_zero (Nat.ne_of_gt (Nat.zero_lt_of_lt hfuel))
    have htail := ih (Nat.lt_of_succ_lt_succ hfuel)
    have hnext := (hstep _ (ends_tail hgap hclose texts rest)).bind htail
    simp only [List.flatMap_cons, List.append_assoc, List.cons_append] at hnext ⊢
    exact (hmore.comma _ hgap' hc).bind hnext

theorem Separates.takes (hmore : Separates more starts close)
    (h : TakesEach starts step acc texts acc') (hgap : Blank gap)
    (hclose : close ∈ [']', '\x7d']) (hfuel : texts.length < fuel) :
    Takes (loop more step fuel true acc) (separated texts ++ (gap ++ close :: rest)) acc'
      (close :: rest) := by
  obtain ⟨fuel, rfl⟩ := Nat.exists_eq_succ_of_ne_zero (Nat.ne_of_gt (Nat.zero_lt_of_lt hfuel))
  cases h with
  | nil acc => exact (hmore.ends true rest hgap).bind (takes_pure acc _)
  | @cons _ next _ gap' c text texts hgap' hc hstep hrest =>
    have htail := hmore.takes_tail hrest hgap rest hclose (Nat.lt_of_succ_lt_succ hfuel)
    have hnext := (hstep _ (ends_tail hgap hclose texts rest)).bind htail
    simp only [separated_cons, List.append_assoc, List.cons_append] at hnext ⊢
    exact (hmore.first _ hgap' hc).bind hnext

theorem length_lt_bound (texts : List (List Char)) (gap rest : List Char) (c : Char) :
    texts.length < (separated texts ++ (gap ++ c :: rest)).length + 1 := by
  have hlength := length_le_separated texts
  simp only [List.length_append, List.length_cons]
  omega

theorem takes_items {item : σ → Reader σ} (h : TakesEach StartsItem item acc texts acc')
    (hgap : Blank gap) (rest : List Char) (hfuel : texts.length < fuel) :
    Takes (items item fuel true acc) (separated texts ++ (gap ++ ']' :: rest)) acc'
      (']' :: rest) := by
  rw [items_eq_loop]
  exact separates_items.takes h hgap (by decide) hfuel

theorem takes_members {member : String → σ → Reader σ}
    (h : TakesEach StartsMember (memberStep member) acc texts acc') (hgap : Blank gap)
    (rest : List Char) (hfuel : texts.length < fuel) :
    Takes (members member fuel true acc) (separated texts ++ (gap ++ '\x7d' :: rest)) acc'
      ('\x7d' :: rest) := by
  rw [members_eq_loop]
  exact separates_members.takes h hgap (by decide) hfuel

theorem takes_endObject (rest : List Char) : Takes endObject ('\x7d' :: rest) ⟨⟩ rest :=
  (takes_peekValue .nil rfl rest).bind (takes_eat '\x7d' rest)

theorem takes_list {item : σ → Reader σ} (h : TakesEach StartsItem item acc texts acc')
    (hgap : Blank gap) (rest : List Char) (hfuel : texts.length < fuel) :
    Takes (closedBy (items item fuel true acc) endList)
      (separated texts ++ (gap ++ ']' :: rest)) acc' rest :=
  (takes_items h hgap rest hfuel).closedBy
    ((takes_peekValue .nil rfl rest).bind (takes_eat ']' rest))

theorem takes_object {member : String → σ → Reader σ}
    (h : TakesEach StartsMember (memberStep member) acc texts acc') (hgap : Blank gap)
    (rest : List Char) (hfuel : texts.length < fuel) :
    Takes (closedBy (members member fuel true acc) endObject)
      (separated texts ++ (gap ++ '\x7d' :: rest)) acc' rest :=
  (takes_members h hgap rest hfuel).closedBy (takes_endObject rest)

end Loop

section Values

variable {p : Reader α} {a : α} {v : Json} {gap rest : List Char}

/-- The text of a document is read back as a value, whatever blanks stand before it. -/
structure Restores (sp : Spacing) (p : Reader α) (v : Json) (a : α) : Prop where
  starts : ∀ level, ∃ c more, written sp level v = c :: more ∧ StartsItem c
  takes : ∀ (level : Nat) {gap rest : List Char}, Blank gap → Ends rest →
    Takes p (gap ++ (written sp level v ++ rest)) a rest

theorem takesEach_items (json : α → Json) {as : List α}
    (h : ∀ a ∈ as, Restores sp p (json a) a) (level : Nat) (acc : List α) :
    TakesEach StartsItem (fun acc => do return (← p) :: acc) acc
      (writtenItems sp level (as.map json)) (as.reverse ++ acc) := by
  induction as generalizing acc with
  | nil => exact .nil acc
  | cons a more ih =>
    obtain ⟨ha, hmore⟩ := List.forall_mem_cons.1 h
    obtain ⟨c, text, htext, hc⟩ := ha.starts level
    rw [List.map_cons, writtenItems, htext, List.reverse_cons, List.append_assoc]
    refine .cons (sp.blank_before level) hc (fun rest hrest => ?_) (ih hmore (a :: acc))
    rw [← htext]
    exact (ha.takes level .nil hrest).map

theorem takes_colon (rest : List Char) : Takes colon (':' :: rest) ⟨⟩ rest :=
  (takes_peekValue .nil rfl rest).bind (takes_eat ':' rest)

theorem TakesEach.member {member : String → σ → Reader σ} {acc next acc' : σ} {level : Nat}
    {k : String} {v : Json} {more : List (String × Json)}
    (hstep : ∀ rest, Ends rest →
      Takes (member k acc) (':' :: (sp.behindColon ++ (written sp level v ++ rest))) next rest)
    (hmore : TakesEach StartsMember (memberStep member) next (writtenMembers sp level more) acc') :
    TakesEach StartsMember (memberStep member) acc (writtenMembers sp level ((k, v) :: more))
      acc' := by
  rw [writtenMembers, Text.quoteChars, List.cons_append]
  refine .cons (sp.blank_before level) rfl (fun rest hrest => ?_) hmore
  simp only [List.append_assoc, List.cons_append, List.nil_append]
  exact (takes_eat '"' _).bind ((takes_string k _).bind (hstep rest hrest))

def takeMember (levels : Nat) (key : String) (acc : List (String × Json)) :
    Reader (List (String × Json)) := do
  colon
  return (key, ← value levels) :: acc

theorem takesEach_members {levels : Nat} {ms : List (String × Json)}
    (h : ∀ m ∈ ms, Restores sp (value levels) m.2 m.2) (level : Nat)
    (acc : List (String × Json)) :
    TakesEach StartsMember (memberStep (takeMember levels)) acc (writtenMembers sp level ms)
      (ms.reverse ++ acc) := by
  induction ms generalizing acc with
  | nil => exact .nil acc
  | cons m more ih =>
    obtain ⟨hm, hmore⟩ := List.forall_mem_cons.1 h
    rw [List.reverse_cons, List.append_assoc]
    refine .member (fun rest hrest => ?_) (ih hmore (m :: acc))
    exact (takes_colon _).bind (hm.takes level sp.blank_behindColon hrest).map

/-- Integers within their range, whose text is read back. -/
def Exact (n : JsonNumber) : Prop := n.InRange ∧ n.isInteger = true

theorem startsItem_of_isDigit {c : Char} (h : c.isDigit = true) : StartsItem c := by
  constructor
  · refine Bool.eq_false_iff.2 fun hblank => ?_
    simp only [isBlank, Bool.or_eq_true, beq_iff_eq] at hblank
    rcases hblank with ((rfl | rfl) | rfl) | rfl <;> exact absurd h (by decide)
  · rintro rfl
    exact absurd h (by decide)

theorem restores_number {n : JsonNumber} (hn : Exact n) (levels : Nat) :
    Restores sp (value (levels + 1)) (.number n) (.number n) := by
  obtain ⟨hrange, hinteger⟩ := hn
  cases n with
  | natural n =>
    obtain ⟨c, more, hdigits, hc⟩ := (Decimal.whole_toDigits n).numeric.exists_cons
    have hwritten (level : Nat) : written sp level (.number (.natural n)) = Nat.toDigits 10 n := rfl
    have hne (d : Char) (hd : d.isDigit = false) : c ≠ d := fun heq => by simp [heq, hd] at hc
    refine ⟨fun level => ⟨c, more, hdigits, startsItem_of_isDigit hc⟩,
      fun level gap rest hgap hrest => ?_⟩
    have hnumber := takes_number false hrange nofun hrest
    rw [hwritten, hdigits, List.cons_append]
    rw [hdigits, List.cons_append] at hnumber
    refine (takes_peekValue hgap (startsItem_of_isDigit hc).1 _).bind ?_
    -- no other value begins with a digit
    obtain ⟨hn, ht, hf, hminus, hquote, hbracket, hbrace⟩ : c ≠ 'n' ∧ c ≠ 't' ∧ c ≠ 'f' ∧ c ≠ '-' ∧
        c ≠ '"' ∧ c ≠ '[' ∧ c ≠ '\x7b' := by
      refine ⟨?_, ?_, ?_, ?_, ?_, ?_, ?_⟩ <;> exact hne _ rfl
    simp only [hc, if_true]
    exact hnumber.map
  | negative n =>
    refine ⟨fun level => ⟨'-', _, rfl, rfl, by decide⟩, fun level gap rest hgap hrest => ?_⟩
    have hle : Nat.pow 2 63 ≤ maxNatural := by decide
    refine (takes_peekValue hgap rfl _).bind ((takes_eat '-' _).bind ?_)
    exact (takes_number true (hrange.2.trans hle) (fun _ => hrange) hrest).map
  | float x => cases hinteger

theorem restores_value {levels : Nat} (h : Within Exact levels v) :
    Restores sp (value levels) v v := by
  induction h with
  | null levels =>
    refine ⟨fun level => ⟨'n', _, rfl, rfl, by decide⟩, fun level gap rest hgap hrest => ?_⟩
    exact (takes_peekValue hgap rfl _).bind
      ((takes_eat 'n' _).bind ((takes_word ['u', 'l', 'l'] rest).bind (takes_pure _ _)))
  | bool levels b =>
    cases b with
    | true =>
      refine ⟨fun level => ⟨'t', _, rfl, rfl, by decide⟩, fun level gap rest hgap hrest => ?_⟩
      exact (takes_peekValue hgap rfl _).bind
        ((takes_eat 't' _).bind ((takes_word ['r', 'u', 'e'] rest).bind (takes_pure _ _)))
    | false =>
      refine ⟨fun level => ⟨'f', _, rfl, rfl, by decide⟩, fun level gap rest hgap hrest => ?_⟩
      exact (takes_peekValue hgap rfl _).bind
        ((takes_eat 'f' _).bind ((takes_word ['a', 'l', 's', 'e'] rest).bind (takes_pure _ _)))
  | number levels hn => exact restores_number hn levels
  | string levels s =>
    refine ⟨fun level => ⟨'"', _, rfl, rfl, by decide⟩, fun level gap rest hgap hrest => ?_⟩
    rw [written, Text.quoteChars_append]
    exact (takes_peekValue hgap rfl _).bind ((takes_eat '"' _).bind (takes_string s rest).map)
  | @array levels hlevels items _ ih =>
    refine ⟨fun level => ⟨'[', _, rfl, rfl, by decide⟩, fun level gap rest hgap hrest => ?_⟩
    have hitems := takesEach_items id ih (level + 1) []
    rw [List.map_id, List.append_nil] at hitems
    rw [written, bracketed]
    simp only [List.append_assoc, List.cons_append, List.nil_append]
    refine (takes_peekValue hgap rfl _).bind ?_
    simp only [beq_false_of_ne hlevels, Bool.false_eq_true, if_false]
    refine (takes_eat '[' _).bind ((takes_bound _).bind ?_)
    refine (takes_list hitems (blank_closing sp level _) rest (length_lt_bound _ _ _ _)).map_eq ?_
    rw [List.reverse_reverse]
  | @object levels hlevels members _ ih =>
    refine ⟨fun level => ⟨'\x7b', _, rfl, rfl, by decide⟩, fun level gap rest hgap hrest => ?_⟩
    have hmembers := takesEach_members ih (level + 1) []
    rw [List.append_nil] at hmembers
    rw [written, bracketed]
    simp only [List.append_assoc, List.cons_append, List.nil_append]
    refine (takes_peekValue hgap rfl _).bind ?_
    simp only [beq_false_of_ne hlevels, Bool.false_eq_true, if_false]
    refine (takes_eat '\x7b' _).bind ((takes_bound _).bind ?_)
    refine (takes_object hmembers (blank_closing sp level _) rest
      (length_lt_bound _ _ _ _)).map_eq ?_
    rw [List.reverse_reverse]

end Values

end Reader

/-- A document whose numbers are integers is read back from its text. -/
theorem parse_written {v : Json} (h : Within Reader.Exact (maxNesting + 1) v) (sp : Spacing) :
    parse (String.ofList (written sp 0 v)) = .ok v := by
  refine Reader.run_eq_ok ?_
  have hrestores : Reader.Restores sp (Reader.value (maxNesting + 1)) v v := Reader.restores_value h
  have htext := hrestores.takes 0 .nil .nil
  rwa [List.nil_append, List.append_nil, ← String.toList_ofList (l := written sp 0 v)] at htext

theorem parse_compactText {v : Json} (h : Within Reader.Exact (maxNesting + 1) v) :
    parse v.compactText = .ok v := by
  rw [compactText, ← written_tight 0]
  exact parse_written h tight

end ModuleBundler.Json
