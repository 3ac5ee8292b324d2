import ModuleBundler.Json.Reader

/-! What the reader of documents can yield: numbers within their ranges, and no deeper nesting than
it allows. -/
namespace ModuleBundler

/-- The numbers that can be read: integers of 64 bits, of which those below zero have a sign, and
floating-point numbers that are not finer than the finest. -/
def JsonNumber.InRange : JsonNumber → Prop
  | natural n => n ≤ Json.Reader.maxNatural
  | negative n => n ≠ 0 ∧ n ≤ Nat.pow 2 63
  | float x => Decimal.Binary.minExponent ≤ x.exponent

instance : DecidablePred JsonNumber.InRange
  | .natural n => inferInstanceAs (Decidable (n ≤ Json.Reader.maxNatural))
  | .negative n => inferInstanceAs (Decidable (n ≠ 0 ∧ n ≤ Nat.pow 2 63))
  | .float x => inferInstanceAs (Decidable (Decimal.Binary.minExponent ≤ x.exponent))

def JsonNumber.isInteger : JsonNumber → Bool
  | natural _ | negative _ => true
  | float _ => false

namespace Json

mutual

def documents : Json → List Json
  | array items => array items :: documentsIn items
  | object members => object members :: documentsOf members
  | v => [v]

def documentsIn : List Json → List Json
  | [] => []
  | v :: more => documents v ++ documentsIn more

def documentsOf : List (String × Json) → List Json
  | [] => []
  | (_, v) :: more => documents v ++ documentsOf more

end

/-- Documents of limited nesting whose numbers have a property. Without levels there is none, with
one level there are no lists and objects. -/
inductive Within (P : JsonNumber → Prop) : Nat → Json → Prop
  | null (levels : Nat) : Within P (levels + 1) .null
  | bool (levels : Nat) (b : Bool) : Within P (levels + 1) (.bool b)
  | number (levels : Nat) {n : JsonNumber} (hn : P n) : Within P (levels + 1) (.number n)
  | string (levels : Nat) (s : String) : Within P (levels + 1) (.string s)
  | array {levels : Nat} (hlevels : levels ≠ 0) {items : List Json}
    (hitems : ∀ v ∈ items, Within P levels v) : Within P (levels + 1) (.array items)
  | object {levels : Nat} (hlevels : levels ≠ 0) {members : List (String × Json)}
    (hmembers : ∀ m ∈ members, Within P levels m.2) : Within P (levels + 1) (.object members)

section Documents

theorem documentsIn_eq (items : List Json) : documentsIn items = items.flatMap documents := by
  induction items with
  | nil => rfl
  | cons v more ih => rw [documentsIn, ih, List.flatMap_cons]

theorem documentsOf_eq (members : List (String × Json)) :
    documentsOf members = members.flatMap fun m => documents m.2 := by
  induction members with
  | nil => rfl
  | cons m more ih => rw [documentsOf, ih, List.flatMap_cons]

theorem mem_documents_of_item {v w : Json} {items : List Json} (h : v ∈ items)
    (hw : w ∈ v.documents) : w ∈ (array items).documents := by
  rw [documents, documentsIn_eq]
  exact List.mem_cons_of_mem _ (List.mem_flatMap.2 ⟨v, h, hw⟩)

theorem mem_documents_of_member {m : String × Json} {w : Json} {members : List (String × Json)}
    (h : m ∈ members) (hw : w ∈ m.2.documents) : w ∈ (object members).documents := by
  rw [documents, documentsOf_eq]
  exact List.mem_cons_of_mem _ (List.mem_flatMap.2 ⟨m, h, hw⟩)

theorem Within.imp {P Q : JsonNumber → Prop} {levels : Nat} {v : Json} (h : Within P levels v)
    (himp : ∀ n, Json.number n ∈ v.documents → P n → Q n) : Within Q levels v := by
  induction h with
  | null levels => exact .null levels
  | bool levels b => exact .bool levels b
  | number levels hn => exact .number levels (himp _ (by simp [documents]) hn)
  | string levels s => exact .string levels s
  | array hlevels _ ih =>
    exact .array hlevels fun v hv => ih v hv fun n hn => himp n (mem_documents_of_item hv hn)
  | object hlevels _ ih =>
    exact .object hlevels fun m hm => ih m hm fun n hn => himp n (mem_documents_of_member hm hn)

theorem Within.mono {P : JsonNumber → Prop} {levels more : Nat} {v : Json} (h : Within P levels v)
    (hle : levels ≤ more) : Within P more v := by
  induction h generalizing more with
  | null | bool | number | string =>
    obtain ⟨more, rfl⟩ := Nat.exists_eq_add_of_le' (Nat.le_of_add_left_le hle)
    constructor
    try assumption
  | @array levels hlevels items _ ih =>
    obtain ⟨more, rfl⟩ := Nat.exists_eq_add_of_le' (Nat.le_of_add_left_le hle)
    have hmore : levels ≤ more := Nat.le_of_succ_le_succ hle
    exact .array (Nat.ne_of_gt (Nat.lt_of_lt_of_le (Nat.pos_of_ne_zero hlevels) hmore))
      fun v hv => ih v hv hmore
  | @object levels hlevels members _ ih =>
    obtain ⟨more, rfl⟩ := Nat.exists_eq_add_of_le' (Nat.le_of_add_left_le hle)
    have hmore : levels ≤ more := Nat.le_of_succ_le_succ hle
    exact .object (Nat.ne_of_gt (Nat.lt_of_lt_of_le (Nat.pos_of_ne_zero hlevels) hmore))
      fun m hm => ih m hm hmore

end Documents

namespace Reader

variable {α β σ : Type} {p : Reader α} {P Q : α → Prop}

/-- All results of a reader have a property. -/
def Gives (p : Reader α) (P : α → Prop) : Prop := ∀ s a s', p s = .ok a s' → P a

section Calculus

theorem gives_true (p : Reader α) : Gives p fun _ => True := fun _ _ _ _ => trivial

theorem gives_pure {a : α} (h : P a) : Gives (pure a) P := by
  rintro s _ _ ⟨⟩
  exact h

theorem Gives.bind {f : α → Reader β} {P : β → Prop} (h : Gives p Q)
    (h' : ∀ a, Q a → Gives (f a) P) : Gives (p >>= f) P := by
  intro s b s' hrun
  change EStateM.bind p f s = _ at hrun
  unfold EStateM.bind at hrun
  cases hp : p s with
  | ok a s₁ =>
    rw [hp] at hrun
    exact h' a (h s a s₁ hp) s₁ b s' hrun
  | error e s₁ =>
    rw [hp] at hrun
    cases hrun

theorem Gives.after {f : α → Reader β} {P : β → Prop} (h : ∀ a, Gives (f a) P) :
    Gives (p >>= f) P :=
  (gives_true p).bind fun a _ => h a

theorem Gives.map {f : α → β} {P : β → Prop} (h : Gives p Q) (h' : ∀ a, Q a → P (f a)) :
    Gives (p >>= fun a => Pure.pure (f a)) P :=
  h.bind fun a ha => gives_pure (h' a ha)

theorem gives_fail (cause : Cause) : Gives (fail cause) P := nofun

theorem gives_failNext (cause : Cause) : Gives (failNext cause) P := nofun

theorem gives_failIn (cause : Cause) : Gives (failIn cause) P := nofun

theorem gives_failUnplaced (cause : Cause) : Gives (failUnplaced cause) P := nofun

theorem Gives.never {f : α → Reader β} {P : β → Prop} (h : Gives p fun _ => False) :
    Gives (p >>= f) P :=
  h.bind fun _ => False.elim

theorem Gives.placed (h : Gives p P) : Gives (placed p) P := by
  intro s a s' hrun
  refine h s a s' ?_
  unfold Reader.placed at hrun
  split at hrun
  · cases hrun
  · exact hrun

theorem Gives.closedBy (h : Gives p P) (finish : Reader Unit) : Gives (closedBy p finish) P := by
  intro s a s' hrun
  unfold Reader.closedBy at hrun
  cases hp : p s with
  | ok b s₁ =>
    rw [hp] at hrun
    dsimp only at hrun
    split at hrun
    · cases hrun
      exact h s a s₁ hp
    · cases hrun
  | error e s₁ =>
    rw [hp] at hrun
    dsimp only at hrun
    split at hrun <;> cases hrun

def loop (more : Bool → Reader Bool) (step : σ → Reader σ) : Nat → Bool → σ → Reader σ
  | 0, _, acc => return acc
  | fuel + 1, first, acc => do
    if ← more first then
      let acc ← step acc
      loop more step fuel false acc
    else return acc

def memberStep (member : String → σ → Reader σ) (acc : σ) : Reader σ := do
  eat
  let key ← string
  member key acc

theorem items_eq_loop (item : σ → Reader σ) (fuel : Nat) (first : Bool) (acc : σ) :
    items item fuel first acc = loop moreItems item fuel first acc := by
  induction fuel generalizing first acc with
  | zero => rfl
  | succ fuel ih => simp only [items, loop, ih]

theorem members_eq_loop (member : String → σ → Reader σ) (fuel : Nat) (first : Bool) (acc : σ) :
    members member fuel first acc = loop moreMembers (memberStep member) fuel first acc := by
  induction fuel generalizing first acc with
  | zero => rfl
  | succ fuel ih => simp only [members, loop, memberStep, ih, bind_assoc]

theorem gives_loop {more : Bool → Reader Bool} {step : σ → Reader σ} {P : σ → Prop}
    (h : ∀ acc, P acc → Gives (step acc) P) (fuel : Nat) (first : Bool) (acc : σ) (hacc : P acc) :
    Gives (loop more step fuel first acc) P := by
  induction fuel generalizing first acc with
  | zero => exact gives_pure hacc
  | succ fuel ih =>
    refine .after fun more => ?_
    split
    · exact (h acc hacc).bind fun next hnext => ih false next hnext
    · exact gives_pure hacc

theorem gives_items {item : σ → Reader σ} {P : σ → Prop} (h : ∀ acc, P acc → Gives (item acc) P)
    (fuel : Nat) (first : Bool) (acc : σ) (hacc : P acc) :
    Gives (items item fuel first acc) P := by
  rw [items_eq_loop]
  exact gives_loop h fuel first acc hacc

theorem gives_members {member : String → σ → Reader σ} {P : σ → Prop}
    (h : ∀ key acc, P acc → Gives (member key acc) P) (fuel : Nat) (first : Bool) (acc : σ)
    (hacc : P acc) : Gives (members member fuel first acc) P := by
  have hstep : ∀ acc, P acc → Gives (memberStep member acc) P := fun acc hacc =>
    .after fun _ => .after fun key => h key acc hacc
  rw [members_eq_loop]
  exact gives_loop hstep fuel first acc hacc

theorem Gives.of_run {text : String} {a : α} (h : Gives p P) (hrun : run p text = .ok a) :
    P a := by
  have hwhole : Gives (do let a ← p; finish; return a) P :=
    h.bind fun a ha => .after fun _ => gives_pure ha
  unfold run at hrun
  dsimp only at hrun
  split at hrun
  · next a' s' hok =>
    cases hrun
    exact hwhole _ a s' hok
  · cases hrun

end Calculus

section Numbers

open Decimal (Binary)

theorem round?_exponent {negative : Bool} {num den : Nat} {x : Binary}
    (h : Binary.round? negative num den = some x) : Binary.minExponent ≤ x.exponent := by
  unfold Binary.round? at h
  split at h
  · cases h
    exact Int.le_refl _
  · dsimp only at h
    split at h <;> split at h <;> cases h
    · dsimp only
      omega
    · exact Int.le_max_right ..

theorem scale_exponent {x y : Binary} {exponent : Int} {fuel : Nat}
    (hx : Binary.minExponent ≤ x.exponent) (h : scale x exponent fuel = some y) :
    Binary.minExponent ≤ y.exponent := by
  induction fuel generalizing x exponent with
  | zero =>
    cases h
    exact Int.le_refl _
  | succ fuel ih =>
    unfold scale at h
    split at h
    · obtain ⟨power, -, h⟩ := Option.bind_eq_some_iff.1 h
      split at h <;> exact round?_exponent h
    · split at h
      · cases h
        exact hx
      · split at h
        · cases h
        · obtain ⟨power, -, h⟩ := Option.bind_eq_some_iff.1 h
          obtain ⟨z, hz, h⟩ := Option.bind_eq_some_iff.1 h
          exact ih (round?_exponent hz) h

theorem gives_ofParts (negative : Bool) (digits : Nat) (exponent : Int) :
    Gives (ofParts negative digits exponent) JsonNumber.InRange := by
  unfold ofParts
  split
  · next x h =>
    obtain ⟨y, hy, h⟩ := Option.bind_eq_some_iff.1 h
    have hx := scale_exponent (round?_exponent hy) h
    cases negative <;> exact gives_pure hx
  · exact gives_fail _

theorem gives_exponentPart (negative : Bool) (digits : Nat) (exponent : Int) :
    Gives (exponentPart negative digits exponent) JsonNumber.InRange := by
  unfold exponentPart
  -- whatever the sign and the digits are, the end is a failure, a zero or a rounded number
  repeat' first
    | exact gives_fail _
    | exact gives_ofParts _ _ _
    | exact gives_pure (Int.le_refl _)
    | exact .never (gives_failIn _)
    | refine .after fun _ => ?_
    | split
    | dsimp only

theorem gives_afterDigits (negative : Bool) (digits : Nat) (exponent : Int) :
    Gives (afterDigits negative digits exponent) JsonNumber.InRange := by
  unfold afterDigits
  refine .after fun next => ?_
  split
  · exact gives_exponentPart _ _ _
  · exact gives_exponentPart _ _ _
  · exact gives_ofParts _ _ _

theorem gives_fractionPart (negative : Bool) (digits : Nat) (exponent : Int) :
    Gives (fractionPart negative digits exponent) JsonNumber.InRange := by
  unfold fractionPart
  refine .after fun _ => .after fun taken => ?_
  dsimp only
  split
  · exact .after fun _ => gives_afterDigits _ _ _
  · split
    · refine .after fun next => ?_
      split <;> exact .after fun _ => gives_afterDigits _ _ _
    · exact gives_afterDigits _ _ _

theorem accumulate_le {n : Nat} (hn : n ≤ maxNatural) (text : List Char) (count : Nat) :
    (accumulate n text count).1 ≤ maxNatural := by
  induction text generalizing n count with
  | nil => exact hn
  | cons c rest ih =>
    unfold accumulate
    split
    · dsimp only
      split
      · exact hn
      · next hfits => exact ih (Nat.not_lt.1 hfits) (count + 1)
    · exact hn

theorem gives_takeDigits {n : Nat} (hn : n ≤ maxNatural) :
    Gives (takeDigits n) fun taken => taken.1 ≤ maxNatural := by
  refine .after fun s => ?_
  dsimp only
  exact .after fun _ => gives_pure (accumulate_le hn s.rest 0)

def afterTaken (negative : Bool) (taken : Nat × Nat × Bool) : Reader JsonNumber := do
  let (digits, _, full) := taken
  if full then
    let more ← takeWhile Char.isDigit
    match ← peek? with
    | some '.' => fractionPart negative digits more.length
    | _ => afterDigits negative digits more.length
  else
    match ← peek? with
    | some '.' => fractionPart negative digits 0
    | some 'e' | some 'E' => exponentPart negative digits 0
    | _ =>
      if !negative then return .natural digits
      if digits == 0 || digits > Nat.pow 2 63 then
        match Decimal.Binary.ofNat? digits with
        | some x => return .float x.neg
        | none => fail .numberOutOfRange
      return .negative digits

theorem number_eq (negative : Bool) : number negative = (do
    match ← peek? with
    | none => fail .endInValue
    | some c =>
      unless c.isDigit do failIn .badNumber
      eat
      if c == '0' then
        if (← peek?).any Char.isDigit then failNext .badNumber
      if c == '0' then afterTaken negative (0, 0, false)
      else afterTaken negative (← takeDigits (digitValue c))) :=
  rfl

theorem gives_afterTaken (negative : Bool) {taken : Nat × Nat × Bool}
    (h : taken.1 ≤ maxNatural) : Gives (afterTaken negative taken) JsonNumber.InRange := by
  obtain ⟨digits, count, full⟩ := taken
  unfold afterTaken
  dsimp only
  split
  · refine .after fun more => .after fun next => ?_
    split
    · exact gives_fractionPart _ _ _
    · exact gives_afterDigits _ _ _
  · refine .after fun next => ?_
    split
    · exact gives_fractionPart _ _ _
    · exact gives_exponentPart _ _ _
    · exact gives_exponentPart _ _ _
    · split
      · exact gives_pure h
      · split
        · split
          · next x hx => exact gives_pure (round?_exponent (x := x) hx)
          · exact .never (gives_fail _)
        · next hinteger =>
          refine gives_pure ?_
          simpa [JsonNumber.InRange] using hinteger

theorem digitValue_le {c : Char} (h : c.isDigit = true) : digitValue c ≤ 9 := by
  simp only [Char.isDigit, Bool.and_eq_true, decide_eq_true_eq, ge_iff_le,
    UInt32.le_iff_toNat_le] at h
  exact Nat.sub_le_of_le_add h.2

theorem gives_number (negative : Bool) : Gives (number negative) JsonNumber.InRange := by
  rw [number_eq]
  refine .after fun next => ?_
  split
  · exact gives_fail _
  · next c =>
    -- a zero stands alone, and any other digit may have more behind it
    have hzero : Gives (afterTaken negative (0, 0, false)) JsonNumber.InRange :=
      gives_afterTaken negative (Nat.zero_le _)
    have hdigits (hc : c.isDigit = true) :
        Gives (do afterTaken negative (← takeDigits (digitValue c))) JsonNumber.InRange := by
      refine (gives_takeDigits ?_).bind fun taken h => gives_afterTaken negative h
      exact Nat.le_trans (digitValue_le hc) (by decide)
    dsimp only
    by_cases hc : c.isDigit = true
    · rw [if_pos hc]
      refine .after fun _ => ?_
      split
      · refine .after fun digit => ?_
        split
        · exact .never (gives_failNext _)
        · exact hzero
      · exact hdigits hc
    · rw [if_neg hc]
      exact .never (gives_failIn _)

end Numbers

theorem gives_value (levels : Nat) : Gives (value levels) (Within JsonNumber.InRange levels) := by
  induction levels with
  | zero => exact gives_failNext _
  | succ levels ih =>
    unfold value
    refine .after fun next => ?_
    split
    · exact gives_failNext _
    · exact .after fun _ => .after fun _ => gives_pure (.null levels)
    · exact .after fun _ => .after fun _ => gives_pure (.bool levels true)
    · exact .after fun _ => .after fun _ => gives_pure (.bool levels false)
    · exact .after fun _ => (gives_number true).map fun _ hn => .number levels hn
    · exact .after fun _ => .after fun s => gives_pure (.string levels s)
    · dsimp only
      split
      · exact .never (gives_failNext _)
      · next hlevels =>
        refine .after fun _ => .after fun bound => ?_
        have hitems := gives_items (P := fun acc => ∀ v ∈ acc, Within JsonNumber.InRange levels v)
          (fun acc hacc => ih.map fun v hv => List.forall_mem_cons.2 ⟨hv, hacc⟩) bound true []
          nofun
        refine (hitems.closedBy _).map fun taken h => ?_
        exact .array (by simpa using hlevels) fun v hv => h v (List.mem_reverse.1 hv)
    · dsimp only
      split
      · exact .never (gives_failNext _)
      · next hlevels =>
        refine .after fun _ => .after fun bound => ?_
        have hmember (key : String) (acc : List (String × Json))
            (hacc : ∀ m ∈ acc, Within JsonNumber.InRange levels m.2) :
            Gives (do colon; return (key, ← value levels) :: acc) fun acc =>
              ∀ m ∈ acc, Within JsonNumber.InRange levels m.2 := by
          refine .after fun _ => ih.map fun v hv => ?_
          exact List.forall_mem_cons.2 ⟨hv, hacc⟩
        refine ((gives_members hmember bound true [] nofun).closedBy _).map
          fun taken h => ?_
        exact .object (by simpa using hlevels) fun m hm => h m (List.mem_reverse.1 hm)
    · split
      · exact (gives_number false).map fun _ hn => .number levels hn
      · exact gives_failNext _

end Reader

/-- Every document that is read has numbers within their ranges and an allowed nesting. -/
theorem within_of_parse {text : String} {v : Json} (h : parse text = .ok v) :
    Within JsonNumber.InRange (maxNesting + 1) v :=
  (Reader.gives_value (maxNesting + 1)).of_run h

end Json

end ModuleBundler
