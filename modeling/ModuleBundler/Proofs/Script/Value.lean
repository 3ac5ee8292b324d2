import ModuleBundler.Keyed
import ModuleBundler.Proofs.Edit.Substitution
import ModuleBundler.Proofs.Script.Operand

/-! What expressions stand for that are made of literals alone. A member of an object literal
defines a property of the object, unless its key is `__proto__` and is not computed: such a member
sets the prototype of the object, and no property. -/
namespace ModuleBundler.Script

/-- A number is told by its numeral. An object has the prototype that all objects begin with if it
is given no other. -/
inductive Value where
  | null
  | bool (b : Bool)
  | number (numeral : List Char)
  | string (text : String)
  | array (items : List Value)
  | object (prototype : Option Value) (properties : List (String × Value))

structure Setting where
  computed : Bool
  key : String
  value : Value

namespace Setting

def prototypeKey : String := "__proto__"

def setsPrototype (s : Setting) : Bool := !s.computed && s.key == prototypeKey

/-- Whether the key of a member is computed, told by what stands there: a computed one is an
expression, any other a word or a string that is only a key. -/
def computed? : Leaf → Option Bool
  | .text | .word => some false
  | .string => some true
  | _ => none

end Setting

namespace Value

/-- Objects, lists among them, can be prototypes, and null is to have none. -/
def isPrototype : Value → Bool
  | null | array _ | object .. => true
  | _ => false

def defined (settings : List Setting) : List (String × Value) :=
  (settings.filter fun s => !s.setsPrototype).map fun s => (s.key, s.value)

/-- The object that the members of a literal make, in their order. Of those with one key the last
one counts. To set the prototype twice is an error, and to set it to what cannot be one is in
vain. -/
def ofSettings? (settings : List Setting) : Option Value :=
  let properties := Keyed.ofPairs (defined settings)
  match settings.filter Setting.setsPrototype with
  | [] => some (object none properties)
  | [s] => some (object (if s.value.isPrototype then some s.value else none) properties)
  | _ => none

def ofWord? (word : String) : Option Value :=
  if word = "null" then some null
  else if word = "true" then some (bool true)
  else if word = "false" then some (bool false)
  else none

def textAt (source : List Char) (span : Span) : List Char :=
  (splitBytes (span.stop - span.start) (splitBytes span.start source).2).1

mutual

/-- The value of an expression of a source text, if it is made of literals. -/
def ofNode? (source : List Char) : Node → Option Value
  | .leaf .string _ text => some (string text)
  | .leaf .constant _ word => ofWord? word
  | .leaf .number span _ => some (number (textAt source span))
  | .branch .unary span [.leaf .number numeral _] =>
    if textAt source ⟨span.start, numeral.start⟩ = ['-'] then
      some (number ('-' :: textAt source numeral))
    else none
  | .branch .array _ items => (ofNodes? source items).map array
  | .branch .object _ members => (settings? source members).bind ofSettings?
  | _ => none

def ofNodes? (source : List Char) : List Node → Option (List Value)
  | [] => some []
  | n :: more => do
    let v ← ofNode? source n
    return v :: (← ofNodes? source more)

def setting? (source : List Char) : Node → Option Setting
  | .branch .property _ [.leaf kind _ key, n] =>
    do return ⟨← Setting.computed? kind, key, ← ofNode? source n⟩
  | _ => none

def settings? (source : List Char) : List Node → Option (List Setting)
  | [] => some []
  | n :: more => do
    let s ← setting? source n
    return s :: (← settings? source more)

end

theorem ofNodes?_eq (source : List Char) (ns : List Node) :
    ofNodes? source ns = ns.mapM (ofNode? source) := by
  induction ns with
  | nil => rfl
  | cons n more ih => rw [ofNodes?, ih, List.mapM_cons]

theorem settings?_eq (source : List Char) (ns : List Node) :
    settings? source ns = ns.mapM (setting? source) := by
  induction ns with
  | nil => rfl
  | cons n more ih => rw [settings?, ih, List.mapM_cons]

section Settings

variable {settings : List Setting}

theorem mem_defined {k : String} {x : Value} :
    (k, x) ∈ defined settings ↔
      ∃ s ∈ settings, s.setsPrototype = false ∧ s.key = k ∧ s.value = x := by
  simp [defined, and_assoc]

theorem nodup_defined (h : (settings.map Setting.key).Nodup) :
    ((defined settings).map Prod.fst).Nodup := by
  rw [defined, List.map_map]
  exact h.sublist (List.filter_sublist.map Setting.key)

theorem length_setsPrototype (h : (settings.map Setting.key).Nodup) :
    (settings.filter Setting.setsPrototype).length ≤ 1 := by
  have hkeys : ∀ k ∈ (settings.filter Setting.setsPrototype).map Setting.key,
      k = Setting.prototypeKey := by
    intro k hk
    obtain ⟨s, hs, rfl⟩ := List.mem_map.1 hk
    have hsets := (List.mem_filter.1 hs).2
    rw [Setting.setsPrototype, Bool.and_eq_true, beq_iff_eq] at hsets
    exact hsets.2
  have hnodup := h.sublist (List.filter_sublist (p := Setting.setsPrototype).map Setting.key)
  rwa [List.eq_replicate_of_mem hkeys, List.nodup_replicate, List.length_map] at hnodup

theorem exists_object (h : (settings.map Setting.key).Nodup) :
    ∃ prototype, ofSettings? settings = some (object prototype (defined settings)) := by
  have hlength := length_setsPrototype h
  unfold ofSettings?
  rw [Keyed.ofPairs_of_nodup (nodup_defined h)]
  rcases hfilter : settings.filter Setting.setsPrototype with _ | ⟨s, _ | ⟨s', more⟩⟩
  · exact ⟨_, rfl⟩
  · exact ⟨_, rfl⟩
  · rw [hfilter] at hlength
    simp at hlength

end Settings

end Value

def Stands (source : List Char) (pos : Nat) (text : List Char) : Prop :=
  ∃ before after, source = before ++ (text ++ after) ∧ byteLength before = pos

section Stands

variable {source text text' : List Char} {pos : Nat}

theorem Stands.textAt_eq (h : Stands source pos text) :
    Value.textAt source ⟨pos, pos + byteLength text⟩ = text := by
  obtain ⟨before, after, rfl, rfl⟩ := h
  rw [Value.textAt, splitBytes_append, Nat.add_sub_cancel_left, splitBytes_append]

theorem Stands.left (h : Stands source pos (text ++ text')) : Stands source pos text := by
  obtain ⟨before, after, rfl, hpos⟩ := h
  exact ⟨before, text' ++ after, by rw [List.append_assoc], hpos⟩

theorem Stands.right (h : Stands source pos (text ++ text')) :
    Stands source (pos + byteLength text) text' := by
  obtain ⟨before, after, rfl, rfl⟩ := h
  exact ⟨before ++ text, after, by simp only [List.append_assoc], byteLength_append ..⟩

theorem Stands.tail {c : Char} (h : Stands source pos (c :: text)) :
    Stands source (pos + c.utf8Size) text := by
  have hcons : Stands source pos ([c] ++ text) := h
  have htail := hcons.right
  rwa [byteLength_cons, byteLength_nil, Nat.add_zero] at htail

end Stands

namespace Parser

variable {α β : Type} {source : List Char} {text : α → List Char} {node : Nat → α → Node}
  {each : Node → Option β} {R : β → α → Prop} {items : List α}

theorem mapM_nodesFrom_further
    (h : ∀ a ∈ items, ∀ pos, Stands source pos (text a) → ∃ b, each (node pos a) = some b ∧ R b a)
    {pos : Nat} (hpos : Stands source pos (furtherText text items)) :
    ∃ bs, (nodesFrom text node (pos + 1) items).mapM each = some bs ∧
      List.Forall₂ R bs items := by
  induction items generalizing pos with
  | nil => exact ⟨[], rfl, .nil⟩
  | cons a more ih =>
    obtain ⟨ha, hmore⟩ := List.forall_mem_cons.1 h
    have htail : Stands source (pos + 1) (text a ++ furtherText text more) := hpos.tail
    obtain ⟨b, hb, hR⟩ := ha _ htail.left
    obtain ⟨bs, hbs, hall⟩ := ih hmore htail.right
    exact ⟨b :: bs, by simp [nodesFrom, hb, hbs], .cons hR hall⟩

theorem mapM_nodesFrom
    (h : ∀ a ∈ items, ∀ pos, Stands source pos (text a) → ∃ b, each (node pos a) = some b ∧ R b a)
    {pos : Nat} (hpos : Stands source pos (listText text items)) :
    ∃ bs, (nodesFrom text node pos items).mapM each = some bs ∧ List.Forall₂ R bs items := by
  cases items with
  | nil => exact ⟨[], rfl, .nil⟩
  | cons a more =>
    obtain ⟨ha, hmore⟩ := List.forall_mem_cons.1 h
    obtain ⟨b, hb, hR⟩ := ha _ hpos.left
    obtain ⟨bs, hbs, hall⟩ := mapM_nodesFrom_further hmore hpos.right
    exact ⟨b :: bs, by simp [nodesFrom, hb, hbs], .cons hR hall⟩

end Parser

end ModuleBundler.Script
