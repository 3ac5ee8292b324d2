import ModuleBundler.Script.Parser.Program

/-! Reading step by step: what the common steps of the grammar come to from a state whose next
tokens are known by their kinds. -/
namespace ModuleBundler.Script

open Grammar (nested)

def Dialect.script : Dialect := ⟨false, false, false, false⟩

@[simp] theorem Dialect.typed_script : Dialect.script.typed = false := rfl

/-- A token that is no keyword written with escapes, so that it can be passed without a fault. -/
def Token.Plain (t : Token) : Prop := ¬ (t.escaped = true ∧ t.keyword?.isSome = true)

namespace State

def within (s : State) (c : Context) : State := { s with context := c }

def skip (s : State) : Nat → State
  | 0 => s
  | n + 1 =>
    let t := (s.skip n).token
    let lexeme := Lexer.next false false ⟨t.rest, t.span.stop⟩
    { s.skip n with
      token := lexeme.token
      lastStop := t.span.stop
      faults := match lexeme.fault with
        | some cause => ⟨lexeme.token.span.start, cause⟩ :: (s.skip n).faults
        | none => (s.skip n).faults }

section Views

variable (s : State) (c d : Context) (m n : Nat)

@[simp] theorem skip_zero : s.skip 0 = s := rfl

@[simp] theorem skip_skip : (s.skip m).skip n = s.skip (m + n) := by
  induction n with
  | zero => rfl
  | succ n ih => rw [skip, ih, ← Nat.add_assoc, skip]

@[simp] theorem context_skip : (s.skip n).context = s.context := by
  induction n with
  | zero => rfl
  | succ n ih => exact ih

@[simp] theorem notArrows_skip : (s.skip n).notArrows = s.notArrows := by
  induction n with
  | zero => rfl
  | succ n ih => exact ih

@[simp] theorem token_within : (s.within c).token = s.token := rfl

@[simp] theorem lastStop_within : (s.within c).lastStop = s.lastStop := rfl

@[simp] theorem notArrows_within : (s.within c).notArrows = s.notArrows := rfl

@[simp] theorem context_within : (s.within c).context = c := rfl

@[simp] theorem within_within : (s.within c).within d = s.within d := rfl

@[simp] theorem skip_within : (s.within c).skip n = (s.skip n).within c := by
  induction n with
  | zero => rfl
  | succ n ih =>
    rw [skip, ih]
    rfl

theorem within_eq {s : State} {c : Context} (h : s.context = c) : s.within c = s := by
  rw [← h]
  rfl

end Views

def Sees : State → List TokenKind → Prop
  | _, [] => True
  | s, k :: more => (s.token.kind = k ∧ s.token.Plain) ∧ (s.skip 1).Sees more

theorem sees_within {s : State} {c : Context} {kinds : List TokenKind} (h : s.Sees kinds) :
    (s.within c).Sees kinds := by
  induction kinds generalizing s with
  | nil => trivial
  | cons k more ih =>
    refine ⟨h.1, ?_⟩
    rw [skip_within]
    exact ih h.2

end State

namespace Parser

variable {α β : Type} {p : Parser α} {s s' : State} {a : α} {n : Nat}

@[simp] theorem run_pure (a : α) (s : State) : (pure a : Parser α) s = .ok a s := rfl

@[simp] theorem run_bind (p : Parser α) (f : α → Parser β) (s : State) :
    (p >>= f) s = match p s with
      | .ok a s' => f a s'
      | .error e s' => .error e s' := by
  show EStateM.bind p f s = _
  unfold EStateM.bind
  cases p s <;> rfl

@[simp] theorem run_map (f : α → β) (p : Parser α) (s : State) :
    (f <$> p) s = match p s with
      | .ok a s' => .ok (f a) s'
      | .error e s' => .error e s' := by
  show EStateM.map f p s = _
  unfold EStateM.map
  cases p s <;> rfl

@[simp] theorem run_get (s : State) : (get : Parser State) s = .ok s s := rfl

@[simp] theorem run_modify (f : State → State) (s : State) :
    (modify f : Parser Unit) s = .ok ⟨⟩ (f s) := rfl

@[simp] theorem run_current (s : State) : current s = .ok s.token s := rfl

@[simp] theorem run_position (s : State) : position s = .ok s.token.span.start s := rfl

@[simp] theorem run_spanFrom (start : Nat) (s : State) :
    spanFrom start s = .ok ⟨start, s.lastStop⟩ s := rfl

@[simp] theorem run_atMark (m : Mark) (s : State) :
    atMark m s = .ok (s.token.kind == .mark m) s := rfl

@[simp] theorem run_atKeyword (k : Keyword) (s : State) :
    atKeyword k s = .ok (s.token.kind == .keyword k) s := rfl

@[simp] theorem run_atBreak (s : State) : atBreak s = .ok s.token.afterBreak s := rfl

@[simp] theorem run_atEnd (s : State) : atEnd s = .ok (s.token.kind == .finish) s := rfl

theorem run_inContext {change : Context → Context}
    (h : p (s.within (change s.context)) = .ok a s') :
    inContext change p s = .ok a (s'.within s.context) := by
  simp only [inContext, run_bind, run_get, run_modify]
  rw [show ({ s with context := change s.context } : State) = s.within (change s.context) from rfl,
    h]
  rfl

section Nested

variable (d : Dialect) (n : Nat) (s : State)

@[simp] theorem dialect_nested : (nested d n).dialect = d := by
  cases n <;> rfl

@[simp] theorem fuel_nested : (nested d (n + 1)).fuel = n := rfl

theorem assignment_nested (b : Bool) :
    (nested d (n + 1)).assignment b s = assignmentOf (nested d n) b s := rfl

theorem binary_nested (l : Nat) : (nested d (n + 1)).binary l s = binaryOf (nested d n) l s := rfl

theorem unary_nested : (nested d (n + 1)).unary s = unaryOf (nested d n) s := rfl

theorem leftHand_nested : (nested d (n + 1)).leftHand s = leftHandOf (nested d n) s := rfl

theorem primary_nested : (nested d (n + 1)).primary s = primaryOf (nested d n) s := rfl

theorem statement_nested (b : Bool) :
    (nested d (n + 1)).statement b s = statementOf (nested d n) b s := rfl

theorem pattern_nested : (nested d (n + 1)).pattern s = patternOf (nested d n) s := rfl

end Nested

theorem run_eat_other {d : Dialect} {m : Mark} (h : s.token.kind ≠ .mark m) :
    eat (nested d n) m s = .ok false s := by
  simp [eat, h]

theorem run_eatKeyword_other {d : Dialect} {k : Keyword} (h : s.token.kind ≠ .keyword k) :
    eatKeyword (nested d n) k s = .ok false s := by
  simp [eatKeyword, h]

abbrev level (n : Nat) : Grammar := nested .script n

@[simp] theorem run_advanceName : advanceName (level n) s = .ok ⟨⟩ (s.skip 1) := by
  simp only [advanceName, dialect_nested]
  rfl

theorem run_advance (h : s.token.Plain) : advance (level n) s = .ok ⟨⟩ (s.skip 1) := by
  simp [advance, show ¬ (s.token.escaped = true ∧ s.token.keyword?.isSome = true) from h]

theorem run_eat {m : Mark} {more : List TokenKind} (h : s.Sees (.mark m :: more)) :
    eat (level n) m s = .ok true (s.skip 1) := by
  simp [eat, h.1.1, run_advance h.1.2]

theorem run_eatKeyword {k : Keyword} {more : List TokenKind} (h : s.Sees (.keyword k :: more)) :
    eatKeyword (level n) k s = .ok true (s.skip 1) := by
  simp [eatKeyword, h.1.1, run_advance h.1.2]

theorem run_expect {m : Mark} {more : List TokenKind} (h : s.Sees (.mark m :: more))
    (what : String) : expect (level n) m what s = .ok ⟨⟩ (s.skip 1) := by
  simp [expect, run_eat h]

theorem run_expectKeyword {k : Keyword} {more : List TokenKind} (h : s.Sees (.keyword k :: more))
    (what : String) : expectKeyword (level n) k what s = .ok ⟨⟩ (s.skip 1) := by
  simp [expectKeyword, run_eatKeyword h]

theorem run_endStatement {more : List TokenKind} (h : s.Sees (.mark .semicolon :: more)) :
    endStatement (level n) s = .ok ⟨⟩ (s.skip 1) := by
  simp [endStatement, run_eat h]

end Parser

end ModuleBundler.Script
