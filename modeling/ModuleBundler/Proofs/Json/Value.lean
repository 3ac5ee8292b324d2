import ModuleBundler.Proofs.Json.Literal
import ModuleBundler.Proofs.Script.Value

/-! The value of the text of a document as an expression. It is what the document says, as long as
no object in the document has a member for the key that sets the prototype of an object literal. -/
namespace ModuleBundler.Json

open Script Script.Parser

/-- A value that is what a document says: lists of the same items, and objects with the same keys
and, for each key, the last value. -/
inductive Mirrors : Value → Json → Prop
  | null : Mirrors .null .null
  | bool (b : Bool) : Mirrors (.bool b) (.bool b)
  | number (n : JsonNumber) : Mirrors (.number n.text) (.number n)
  | string (s : String) : Mirrors (.string s) (.string s)
  | array {values : List Value} {items : List Json} (hlength : values.length = items.length)
    (hitems : ∀ p ∈ values.zip items, Mirrors p.1 p.2) : Mirrors (.array values) (.array items)
  | object {prototype : Option Value} {properties : List (String × Value)}
    {members : List (String × Json)}
    (hkeys : ∀ k, k ∈ properties.map Prod.fst ↔ k ∈ members.map Prod.fst)
    (hmembers : ∀ k x v, Keyed.get? k properties = some x →
      Keyed.get? k (Keyed.ofPairs members) = some v → Mirrors x v) :
    Mirrors (.object prototype properties) (.object members)

theorem Mirrors.of_same {x : Value} {v w : Json} (h : Mirrors x v) (hsame : Same v w) :
    Mirrors x w := by
  induction h generalizing w with
  | null | bool b | number n | string s =>
    cases hsame
    constructor
  | @array values items hlength _ ih =>
    cases hsame with
    | @array _ items' hlength' hitems' =>
      refine .array (hlength.trans hlength') fun p hp => ?_
      obtain ⟨i, hi, rfl⟩ := List.mem_iff_getElem.1 hp
      rw [List.length_zip, ← hlength', ← hlength, Nat.min_self] at hi
      have hi' : i < items.length := hlength ▸ hi
      have hmem : (values[i], items[i]) ∈ values.zip items :=
        List.mem_iff_getElem.2 ⟨i, by simpa using ⟨hi, hi'⟩, List.getElem_zip⟩
      have hmem' : (items[i], items'[i]) ∈ items.zip items' :=
        List.mem_iff_getElem.2 ⟨i, by simpa using ⟨hi', hlength' ▸ hi'⟩, List.getElem_zip⟩
      rw [List.getElem_zip]
      exact ih _ hmem (hitems' _ hmem')
  | @object prototype properties members hkeys _ ih =>
    cases hsame with
    | @object _ members' hkeys' hmembers' =>
      refine .object (fun k => (hkeys k).trans (hkeys' k)) fun k x w hx hw => ?_
      -- a key of the one document is a key of the other, so both have a value for it
      have hk : k ∈ (Keyed.ofPairs members).map Prod.fst := by
        rw [Keyed.mem_map_fst_ofPairs, hkeys' k, ← Keyed.mem_map_fst_ofPairs, ← Keyed.get?_isSome,
          hw]
        rfl
      obtain ⟨v, hv⟩ := Option.isSome_iff_exists.1 (Keyed.get?_isSome.2 hk)
      exact ih k x v hx hv (hmembers' k v w hv hw)

/-- No object in a document has a member for the key that sets a prototype. -/
def Plain (v : Json) : Prop :=
  ∀ members, object members ∈ v.documents → Setting.prototypeKey ∉ members.map Prod.fst

theorem plain_array {items : List Json} : Plain (array items) ↔ ∀ v ∈ items, Plain v := by
  constructor
  · exact fun h v hv members hmembers => h members (mem_documents_of_item hv hmembers)
  · intro h members hmembers
    rw [documents, documentsIn_eq, List.mem_cons, List.mem_flatMap] at hmembers
    rcases hmembers with hmembers | ⟨v, hv, hmembers⟩
    · cases hmembers
    · exact h v hv members hmembers

theorem plain_object {members : List (String × Json)} :
    Plain (object members) ↔
      Setting.prototypeKey ∉ members.map Prod.fst ∧ ∀ m ∈ members, Plain m.2 := by
  constructor
  · intro h
    refine ⟨h members ?_, fun m hm ms hms => h ms (mem_documents_of_member hm hms)⟩
    rw [documents]
    exact List.mem_cons_self
  · rintro ⟨hkey, h⟩ ms hms
    rw [documents, documentsOf_eq, List.mem_cons, List.mem_flatMap] at hms
    rcases hms with hms | ⟨m, hm, hms⟩
    · rw [Json.object.inj hms]
      exact hkey
    · exact h m hm ms hms

section Evaluate

variable {source : List Char} {pos : Nat}

theorem ofNode?_numberTree {text : List Char} (h : Stands source pos text) :
    Value.ofNode? source (numberTree pos text) = some (.number text) := by
  unfold numberTree
  split
  · next more =>
    have hminus : Stands source pos (['-'] ++ more) := h
    have hsign : Value.textAt source ⟨pos, pos + 1⟩ = ['-'] := hminus.left.textAt_eq
    have hnumeral : Value.textAt source ⟨pos + 1, pos + 1 + byteLength more⟩ = more :=
      h.tail.textAt_eq
    rw [Value.ofNode?, if_pos hsign, hnumeral]
  · rw [Value.ofNode?, h.textAt_eq]

/-- A member of a document as a setting of an object literal. -/
structure Sets (s : Setting) (m : String × Json) : Prop where
  computed_eq : s.computed = false
  key_eq : s.key = m.1
  mirrors_iff : Mirrors s.value m.2 ↔ Plain m.2

theorem setting?_memberTree {m : String × Json} (h : Stands source pos (memberText m))
    (hvalue : ∀ pos, Stands source pos m.2.compact →
      ∃ x, Value.ofNode? source (tree pos m.2) = some x ∧ (Mirrors x m.2 ↔ Plain m.2)) :
    ∃ s, Value.setting? source (memberTree pos m) = some s ∧ Sets s m := by
  have hplace : Stands source (pos + byteLength (Text.quoteChars m.1.toList) + 1) m.2.compact :=
    h.right.tail
  obtain ⟨x, hx, hiff⟩ := hvalue _ hplace
  refine ⟨⟨false, m.1, x⟩, ?_, rfl, rfl, hiff⟩
  simp [memberTree, Value.setting?, Setting.computed?, hx]

theorem mirrors_array {values : List Value} {items : List Json}
    (h : List.Forall₂ (fun x v => Mirrors x v ↔ Plain v) values items) :
    Mirrors (.array values) (.array items) ↔ Plain (.array items) := by
  have hzip : (∀ p ∈ values.zip items, Mirrors p.1 p.2) ↔ ∀ v ∈ items, Plain v := by
    induction h with
    | nil => simp
    | cons hiff _ ih =>
      rw [List.zip_cons_cons, List.forall_mem_cons, List.forall_mem_cons, hiff, ih]
  rw [plain_array, ← hzip]
  exact ⟨fun hmirrors => by cases hmirrors; assumption, .array h.length_eq⟩

section Object

variable {settings : List Setting} {members : List (String × Json)} {s : Setting}
  {m : String × Json}

theorem Sets.setsPrototype (h : Sets s m) : s.setsPrototype = (m.1 == Setting.prototypeKey) := by
  rw [Setting.setsPrototype, h.computed_eq, h.key_eq]
  rfl

theorem exists_of_forall₂ (h : List.Forall₂ Sets settings members) :
    (∀ s ∈ settings, ∃ m ∈ members, Sets s m) ∧ ∀ m ∈ members, ∃ s ∈ settings, Sets s m := by
  induction h with
  | nil => exact ⟨nofun, nofun⟩
  | cons hsets _ ih =>
    refine ⟨List.forall_mem_cons.2 ⟨⟨_, List.mem_cons_self, hsets⟩, fun s hs => ?_⟩,
      List.forall_mem_cons.2 ⟨⟨_, List.mem_cons_self, hsets⟩, fun m hm => ?_⟩⟩
    · obtain ⟨m, hm, hsets⟩ := ih.1 s hs
      exact ⟨m, List.mem_cons_of_mem _ hm, hsets⟩
    · obtain ⟨s, hs, hsets⟩ := ih.2 m hm
      exact ⟨s, List.mem_cons_of_mem _ hs, hsets⟩

theorem map_key (h : List.Forall₂ Sets settings members) :
    settings.map Setting.key = members.map Prod.fst := by
  induction h with
  | nil => rfl
  | cons hsets _ ih => rw [List.map_cons, List.map_cons, hsets.key_eq, ih]

theorem plain_of_mirrors {prototype : Option Value} (h : List.Forall₂ Sets settings members)
    (hnodup : (members.map Prod.fst).Nodup)
    (hmirrors : Mirrors (.object prototype (Value.defined settings)) (.object members)) :
    Plain (.object members) := by
  obtain ⟨hsettings, hmembers⟩ := exists_of_forall₂ h
  cases hmirrors with
  | object hkeys hvalues =>
    have hkey : Setting.prototypeKey ∉ members.map Prod.fst := by
      intro hmem
      -- no property that a setting defines has this key
      obtain ⟨⟨k, x⟩, hdefined, rfl⟩ := List.mem_map.1 ((hkeys _).2 hmem)
      obtain ⟨s, hs, hsets, hk, -⟩ := Value.mem_defined.1 hdefined
      obtain ⟨m, -, hm⟩ := hsettings s hs
      rw [hm.setsPrototype, ← hm.key_eq, hk, beq_self_eq_true] at hsets
      cases hsets
    refine plain_object.2 ⟨hkey, fun m hm => ?_⟩
    obtain ⟨s, hs, hsets⟩ := hmembers m hm
    have hne : m.1 ≠ Setting.prototypeKey := fun heq => hkey (heq ▸ List.mem_map_of_mem hm)
    have hdefined : (m.1, s.value) ∈ Value.defined settings := by
      refine Value.mem_defined.2 ⟨s, hs, ?_, hsets.key_eq, rfl⟩
      rw [hsets.setsPrototype, beq_eq_false_iff_ne]
      exact hne
    refine hsets.mirrors_iff.1 (hvalues m.1 s.value m.2 ?_ ?_)
    · exact Keyed.get?_of_mem (Value.nodup_defined (map_key h ▸ hnodup)) hdefined
    · rw [Keyed.ofPairs_of_nodup hnodup]
      exact Keyed.get?_of_mem hnodup hm

theorem mirrors_of_plain (prototype : Option Value) (h : List.Forall₂ Sets settings members)
    (hnodup : (members.map Prod.fst).Nodup) (hplain : Plain (.object members)) :
    Mirrors (.object prototype (Value.defined settings)) (.object members) := by
  obtain ⟨hkey, hvalues⟩ := plain_object.1 hplain
  obtain ⟨hsettings, -⟩ := exists_of_forall₂ h
  have hfilter : settings.filter (fun s => !s.setsPrototype) = settings := by
    refine List.filter_eq_self.2 fun s hs => ?_
    obtain ⟨m, hm, hsets⟩ := hsettings s hs
    have hne : m.1 ≠ Setting.prototypeKey := fun heq => hkey (heq ▸ List.mem_map_of_mem hm)
    rw [hsets.setsPrototype, beq_eq_false_iff_ne.2 hne]
    rfl
  refine .object (fun k => ?_) fun k x v hx hv => ?_
  · rw [Value.defined, hfilter, List.map_map, ← map_key h]
    rfl
  · obtain ⟨s, hs, -, rfl, rfl⟩ := Value.mem_defined.1 (Keyed.mem_of_get? hx)
    obtain ⟨m, hm, hsets⟩ := hsettings s hs
    rw [Keyed.ofPairs_of_nodup hnodup, hsets.key_eq, Keyed.get?_of_mem hnodup hm] at hv
    rw [← Option.some.inj hv]
    exact hsets.mirrors_iff.2 (hvalues m hm)

end Object

/-- The text of a settled document is an expression, whose value is what the document says just if
the document is plain. -/
theorem exists_value {v : Json} (hv : v.settled = v) (h : Stands source pos v.compact) :
    ∃ x, Value.ofNode? source (tree pos v) = some x ∧ (Mirrors x v ↔ Plain v) := by
  induction v using Json.induction generalizing pos with
  | null => exact ⟨.null, rfl, by simp [Plain, documents, Mirrors.null]⟩
  | bool b => cases b <;> exact ⟨.bool _, rfl, by simp [Plain, documents, Mirrors.bool]⟩
  | number n =>
    exact ⟨.number n.text, ofNode?_numberTree h, by simp [Plain, documents, Mirrors.number]⟩
  | string s => exact ⟨.string s, rfl, by simp [Plain, documents, Mirrors.string]⟩
  | array items ih =>
    have hsettled := settled_of_item hv
    rw [compact_array] at h
    have hitems : Stands source (pos + 1) (listText compact items) := h.tail.left
    have heach (v : Json) (hmem : v ∈ items) (pos : Nat) (hpos : Stands source pos v.compact) :
        ∃ x, Value.ofNode? source (tree pos v) = some x ∧ (Mirrors x v ↔ Plain v) :=
      ih v hmem (hsettled v hmem) hpos
    obtain ⟨values, hvalues, hall⟩ := mapM_nodesFrom heach hitems
    refine ⟨.array values, ?_, mirrors_array hall⟩
    rw [tree, Value.ofNode?, Value.ofNodes?_eq, treeItems_eq]
    exact congrArg (Option.map Value.array) hvalues
  | object members ih =>
    obtain ⟨hordered, hsettled⟩ := settled_of_member hv
    have hnodup := hordered.nodup
    rw [compact_object] at h
    -- a settled object has each key once, so no property is defined twice
    have hmembers : Stands source (pos + 1) (listText memberText members) := h.tail.left
    have heach (m : String × Json) (hmem : m ∈ members) (pos : Nat)
        (hpos : Stands source pos (memberText m)) :
        ∃ s, Value.setting? source (memberTree pos m) = some s ∧ Sets s m :=
      setting?_memberTree hpos fun pos hpos => ih m hmem (hsettled m hmem) hpos
    obtain ⟨settings, hsettings, hall⟩ := mapM_nodesFrom heach hmembers
    obtain ⟨prototype, hobject⟩ := Value.exists_object (map_key hall ▸ hnodup)
    refine ⟨.object prototype (Value.defined settings), ?_, plain_of_mirrors hall hnodup,
      mirrors_of_plain prototype hall hnodup⟩
    rw [tree, Value.ofNode?, Value.settings?_eq, treeMembers_eq]
    exact (congrArg (Option.bind · Value.ofSettings?) hsettings).trans hobject

end Evaluate

end ModuleBundler.Json
