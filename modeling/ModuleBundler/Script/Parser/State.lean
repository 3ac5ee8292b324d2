import ModuleBundler.Script.Lexer
import ModuleBundler.Script.Node

/-!
The state of a reading: the token under the eye, the context that the surrounding construct sets,
and the faults met so far. Some faults end the reading at once; others are only noted, and the
text is refused at the end.
-/
namespace ModuleBundler.Script

structure Context where
  inOperator : Bool
  yields : Bool
  awaits : Bool
  returns : Bool
  /-- The expression of a decorator is being read: a bracket ends it. -/
  decorating : Bool
  ambient : Bool
  plainTypes : Bool

structure State where
  token : Token
  lastStop : Nat
  context : Context
  faults : List Fault
  /-- Places of parentheses that are known to start no arrow function. -/
  notArrows : List Nat
  /-- Where array and object literals start whose last element is followed by a comma. -/
  trailingCommas : List Nat
  exported : List String

/-- A reading step: it may end the reading, and the state it ended in is kept. -/
abbrev Parser := EStateM Fault State

namespace Parser

def fail {α : Type} (cause : Cause) : Parser α := do
  throw ⟨(← get).token.span.start, cause⟩

def complain (cause : Cause) : Parser Unit :=
  modify fun s => { s with faults := ⟨s.token.span.start, cause⟩ :: s.faults }

def current : Parser Token := return (← get).token

def position : Parser Nat := return (← get).token.span.start

def spanFrom (start : Nat) : Parser Span := return ⟨start, (← get).lastStop⟩

def afterToken : Parser Cursor := do
  let t ← current
  return ⟨t.rest, t.span.stop⟩

def accept (lexeme : Lexeme) : Parser Unit :=
  modify fun s =>
    { s with
      token := lexeme.token
      lastStop := s.token.span.stop
      faults := match lexeme.fault with
        | some cause => ⟨lexeme.token.span.start, cause⟩ :: s.faults
        | none => s.faults }

def reread (lexeme : Lexeme) : Parser Unit :=
  modify fun s =>
    { s with
      token := lexeme.token
      faults := match lexeme.fault with
        | some cause => ⟨lexeme.token.span.start, cause⟩ :: s.faults
        | none => s.faults }

/-- Runs a step and restores the state, whatever it did; failure counts as the answer "no". -/
def lookahead (p : Parser Bool) : Parser Bool := fun s =>
  match p s with
  | .ok b _ => .ok b s
  | .error _ _ => .ok false s

/-- Runs a step and, unless it has a result, restores the state, but for what was learnt about
arrow functions. -/
def attempt {α : Type} (p : Parser (Option α)) : Parser (Option α) := fun s =>
  match p s with
  | .ok (some a) s' => .ok (some a) s'
  | .ok none s' | .error _ s' => .ok none { s with notArrows := s'.notArrows }

def inContext {α : Type} (change : Context → Context) (p : Parser α) : Parser α := do
  let before := (← get).context
  modify fun s => { s with context := change s.context }
  let a ← p
  modify fun s => { s with context := before }
  return a

/-- Runs a step inside brackets, where `in` is an operator and no decorator is being read. -/
def allowingIn {α : Type} (p : Parser α) : Parser α :=
  inContext (fun c => { c with inOperator := true, decorating := false }) p

def atMark (m : Mark) : Parser Bool := return (← current).kind == .mark m

def atKeyword (k : Keyword) : Parser Bool := return (← current).kind == .keyword k

def atEnd : Parser Bool := return (← current).kind == .finish

def atBreak : Parser Bool := return (← current).afterBreak

def mayEnd : Parser Bool := do
  let t ← current
  return t.kind == .mark .semicolon || t.kind == .mark .braceClose || t.kind == .finish ||
    t.afterBreak

end Parser

end ModuleBundler.Script
