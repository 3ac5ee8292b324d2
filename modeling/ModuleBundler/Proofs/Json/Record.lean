import ModuleBundler.Json.Typed
import ModuleBundler.Proofs.Json.Written

/-! Values of known types are read back from the texts of the documents that stand for them: texts,
lists, values that may be absent, and records whose members come in any order. -/
namespace ModuleBundler.Json.Reader

variable {α β γ : Type} {sp : Spacing} {p : Reader α} {v : Json} {a : α}

section Written

@[simp] theorem written_string (sp : Spacing) (level : Nat) (s : String) :
    written sp level (.string s) = '"' :: (s.toList.flatMap Text.quoteChar ++ ['"']) := rfl

@[simp] theorem written_array (sp : Spacing) (level : Nat) (items : List Json) :
    written sp level (.array items) =
      '[' :: (separated (writtenItems sp (level + 1) items) ++
        (sp.closing level (writtenItems sp (level + 1) items) ++ [']'])) := rfl

@[simp] theorem written_object (sp : Spacing) (level : Nat) (members : List (String × Json)) :
    written sp level (.object members) =
      '\x7b' :: (separated (writtenMembers sp (level + 1) members) ++
        (sp.closing level (writtenMembers sp (level + 1) members) ++ ['\x7d'])) := rfl

end Written

section Values

theorem Restores.map {f : α → β} (h : Restores sp p v a) :
    Restores sp (do return f (← p)) v (f a) :=
  ⟨h.starts, fun level _ _ hgap hrest => (h.takes level hgap hrest).map⟩

theorem takes_valueStart {gap : List Char} {c : Char} (hgap : Blank gap) (hc : isBlank c = false)
    (rest : List Char) : Takes valueStart (gap ++ c :: rest) c (c :: rest) :=
  (takes_peekValue hgap hc rest).bind (takes_pure c _)

theorem restores_stringValue (s : String) : Restores sp stringValue (.string s) s := by
  refine ⟨fun level => ⟨'"', _, rfl, rfl, by decide⟩, fun level gap rest hgap hrest => .placed ?_⟩
  rw [written_string, List.cons_append, List.append_assoc]
  exact (takes_valueStart hgap rfl _).bind ((takes_eat '"' _).bind (takes_string s rest))

theorem restores_listOf {json : α → Json} {as : List α}
    (h : ∀ a ∈ as, Restores sp p (json a) a) :
    Restores sp (listOf p) (.array (as.map json)) as := by
  refine ⟨fun level => ⟨'[', _, rfl, rfl, by decide⟩, fun level gap rest hgap hrest => .placed ?_⟩
  have hitems := takesEach_items json h (level + 1) []
  rw [List.append_nil] at hitems
  rw [written_array]
  simp only [List.append_assoc, List.cons_append, List.nil_append]
  refine (takes_valueStart hgap rfl _).bind ((takes_eat '[' _).bind ((takes_bound _).bind ?_))
  refine (takes_list hitems (blank_closing sp level _) rest (length_lt_bound _ _ _ _)).map_eq ?_
  rw [List.reverse_reverse]

theorem Restores.nullable (h : Restores sp p v a)
    (hnull : ∀ level, (written sp level v).head? ≠ some 'n') :
    Restores sp (nullable p) v (some a) := by
  refine ⟨h.starts, fun level gap rest hgap hrest => ?_⟩
  obtain ⟨c, text, htext, hc, -⟩ := h.starts level
  have hne : (some c == some 'n') = false := by
    have hhead := hnull level
    rw [htext] at hhead
    simpa using hhead
  have htakes := h.takes level .nil hrest
  rw [htext, List.cons_append] at htakes ⊢
  refine (takes_peekValue hgap hc _).bind ?_
  simp only [hne, Bool.false_eq_true, if_false]
  exact htakes.map

end Values

section Records

variable {fields : List (Member α)}

/-- Members fill the parts of a record, each part once; `seen` are the parts that are filled
already, of which none is filled again and none that is required is missing. -/
def Fills (sp : Spacing) (fields : List (Member α)) (level : Nat) (seen : List String) (a : α)
    (members : List (String × Json)) (b : α) : Prop :=
  ∃ seen', (∀ f ∈ fields, f.required = true → f.name ∈ seen') ∧
    TakesEach StartsMember (memberStep (recordMember fields)) (a, seen)
      (writtenMembers sp level members) (b, seen')

theorem fills_nil {level : Nat} {seen : List String}
    (h : ∀ f ∈ fields, f.required = true → f.name ∈ seen) (a : α) :
    Fills sp fields level seen a [] a :=
  ⟨seen, h, .nil _⟩

theorem Fills.cons {level : Nat} {seen : List String} {name : String} {f : Member α} {v : Json}
    {a b c : α} {more : List (String × Json)}
    (hf : fields.find? (fun g => g.name == name) = some f) (hseen : name ∉ seen)
    (hread : Restores sp (f.read a) v b) (hmore : Fills sp fields level (name :: seen) b more c) :
    Fills sp fields level seen a ((name, v) :: more) c := by
  obtain ⟨seen', hrequired, heach⟩ := hmore
  refine ⟨seen', hrequired, .member (fun rest hrest => ?_) heach⟩
  unfold recordMember
  simp only [hf, List.contains_eq_mem, hseen, decide_false, Bool.false_eq_true, if_false]
  exact (takes_colon _).bind (hread.takes level sp.blank_behindColon hrest).map

theorem Fills.option {level : Nat} {seen done : List String} {name : String} {f : Member α}
    {value : Option β} {json : β → Json} {a b c : α} {more : List (String × Json)}
    (hf : fields.find? (fun g => g.name == name) = some f) (hseen : seen ⊆ done)
    (hdone : name ∉ done) (habsent : value = none → a = b)
    (hread : ∀ x, value = some x → Restores sp (f.read a) (json x) b)
    (hmore : ∀ seen', seen ⊆ seen' → seen' ⊆ name :: done →
      Fills sp fields level seen' b more c) :
    Fills sp fields level seen a ((value.map fun x => (name, json x)).toList ++ more) c := by
  cases value with
  | none =>
    rw [habsent rfl]
    exact hmore seen (List.Subset.refl seen) (List.subset_cons_of_subset name hseen)
  | some x =>
    exact .cons hf (fun hmem => hdone (hseen hmem)) (hread x rfl)
      (hmore _ (List.subset_cons_self name seen) (List.cons_subset_cons name hseen))

theorem Fills.nullable {level : Nat} {seen done : List String} {name : String}
    {set : α → Option β → α} {q : Reader β} {required omissible : Bool} {value : Option β}
    {json : β → Json} {a c : α} {more : List (String × Json)}
    (hf : fields.find? (fun g => g.name == name) =
      some ⟨name, fun a => do return set a (← Reader.nullable q), required, omissible⟩)
    (hseen : seen ⊆ done) (hdone : name ∉ done) (habsent : set a none = a)
    (hread : ∀ x, value = some x → Restores sp (Reader.nullable q) (json x) (some x))
    (hmore : ∀ seen', seen ⊆ seen' → seen' ⊆ name :: done →
      Fills sp fields level seen' (set a value) more c) :
    Fills sp fields level seen a ((value.map fun x => (name, json x)).toList ++ more) c := by
  refine .option hf hseen hdone (fun h => ?_) (fun x h => ?_) hmore
  · rw [h, habsent]
  · rw [h]
    exact (hread x h).map

theorem restores_record {type : String} {start : α} {members : List (String × Json)}
    (h : ∀ level, Fills sp fields level [] start members a) :
    Restores sp (record type fields start) (.object members) a := by
  refine ⟨fun level => ⟨'\x7b', _, rfl, rfl, by decide⟩,
    fun level gap rest hgap hrest => .placed ?_⟩
  obtain ⟨seen, hrequired, heach⟩ := h (level + 1)
  rw [written_object]
  simp only [List.append_assoc, List.cons_append, List.nil_append]
  refine (takes_valueStart hgap rfl _).bind ?_
  simp only [beq_self_eq_true, if_true]
  refine (takes_eat '\x7b' _).bind (.closedBy ?_ (takes_endObject rest))
  refine (takes_bound _).bind ?_
  refine (takes_members heach (blank_closing sp level _) rest (length_lt_bound _ _ _ _)).bind ?_
  have hfind : fields.find? (fun f => f.required && !seen.contains f.name) = none := by
    refine List.find?_eq_none.2 fun f hf => ?_
    by_cases hreq : f.required = true
    · simp [hrequired f hf hreq]
    · simp [hreq]
  simp only [hfind]
  exact takes_pure a _

section Results

variable {P : α → Prop}

theorem gives_mismatch (expected : String) : Gives (mismatch expected : Reader α) P := by
  refine .placed ?_
  dsimp only
  refine .after fun next => ?_
  repeat' first
    | exact gives_failUnplaced _
    | exact gives_failNext _
    | refine .after fun _ => ?_
    | split

theorem gives_recordItems (hfields : ∀ f ∈ fields, ∀ a, P a → Gives (f.read a) P)
    (expected : String) (i : Nat) (ha : P a) : Gives (recordItems expected i fields a) P := by
  induction fields generalizing i a with
  | nil => exact gives_pure ha
  | cons f more ih =>
    obtain ⟨hf, hmore⟩ := List.forall_mem_cons.1 hfields
    refine .after fun another => ?_
    split
    · exact (hf a ha).bind fun b hb => ih hmore (i + 1) hb
    · split
      · exact ih hmore (i + 1) ha
      · exact gives_failUnplaced _

theorem gives_record (hfields : ∀ f ∈ fields, ∀ a, P a → Gives (f.read a) P) (type : String)
    {start : α} (hstart : P start) : Gives (record type fields start) P := by
  have hmember (key : String) (acc : α × List String) (hacc : P acc.1) :
      Gives (recordMember fields key acc) fun acc => P acc.1 := by
    unfold recordMember
    split
    · next f hf =>
      have hread := hfields f (List.mem_of_find?_eq_some hf) acc.1 hacc
      split
      · exact .never (gives_failUnplaced _)
      · exact .after fun _ => hread.map fun _ hb => hb
    · exact .after fun _ => .after fun _ => gives_pure hacc
  refine .placed (.after fun c => ?_)
  dsimp only
  split
  · refine .after fun _ => .closedBy (.after fun bound => ?_) _
    refine (gives_members hmember bound true _ hstart).bind fun acc hacc => ?_
    split
    · exact gives_failUnplaced _
    · exact gives_pure hacc
  · split
    · exact .after fun _ => .closedBy (gives_recordItems hfields _ 0 hstart) _
    · exact gives_mismatch _

theorem Gives.nullable {q : Reader β} {P : Option β → Prop} {Q : β → Prop} (h : Gives q Q)
    (hnone : P none) (hsome : ∀ b, Q b → P (some b)) : Gives (nullable q) P := by
  refine .after fun next => ?_
  split
  · exact .after fun _ => .after fun _ => gives_pure hnone
  · exact h.map hsome

end Results

end Records

end ModuleBundler.Json.Reader
