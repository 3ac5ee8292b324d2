import ModuleBundler.Script.Parser.Statement

/-!
Reading a whole source text.
-/
namespace ModuleBundler.Script

def Grammar.nested (dialect : Dialect) : Nat → Grammar
  | 0 => .exhausted dialect
  | fuel + 1 =>
    { dialect := dialect
      fuel := fuel
      assignment := fun resultTypes s =>
        Parser.assignmentOf (nested dialect fuel) resultTypes s
      binary := fun level s => Parser.binaryOf (nested dialect fuel) level s
      unary := fun s => Parser.unaryOf (nested dialect fuel) s
      leftHand := fun s => Parser.leftHandOf (nested dialect fuel) s
      primary := fun s => Parser.primaryOf (nested dialect fuel) s
      statement := fun alone s => Parser.statementOf (nested dialect fuel) alone s
      pattern := fun s => Parser.patternOf (nested dialect fuel) s
      type := fun s => Parser.typeOf (nested dialect fuel) s
      typeOperand := fun s => Parser.typeOperandOf (nested dialect fuel) s
      markup := fun inside s => Parser.markupOf (nested dialect fuel) inside s }

/-- A source text that has been read: the line that addresses the system's loader, if there is
one, and the tree of its statements. -/
structure Program where
  hashbang : Option Span
  tree : Node

namespace Program

/-- The program of the same text behind a number of other bytes. -/
def moved (n : Nat) (p : Program) : Program := ⟨p.hashbang.map (Span.moved n), p.tree.moved n⟩

/-- The grammar goes down a few levels for each token, so this much nesting suffices. -/
def grammar (dialect : Dialect) (text : List Char) : Grammar :=
  .nested dialect (8 * text.length + 64)

def startState (dialect : Dialect) (token : Token) : State :=
  { token
    lastStop := 0
    context := ⟨true, false, dialect.isModule, false, false, dialect.ambient, false⟩
    faults := []
    notArrows := []
    trailingCommas := []
    exported := [] }

def reader (g : Grammar) : Parser Program := do
  let t ← Parser.current
  let hashbang ← if t.kind == .hashbang then do
      Parser.advance g
      pure (some t.span)
    else pure none
  let start ← Parser.position
  let parts ← Parser.many g.fuel (do
    if ← Parser.atEnd then return none
    return some (← g.statement false)) []
  return ⟨hashbang, .branch .program (← Parser.spanFrom start) parts⟩

/-- Reads a text from its first token on. Any fault refuses the whole text; the first noticed is
reported. -/
def readFrom (dialect : Dialect) (first : Lexeme) : Except Fault Program :=
  match first.fault with
  | some cause => .error ⟨first.token.span.start, cause⟩
  | none =>
    match reader (grammar dialect first.token.here) (startState dialect first.token) with
    | .error fault s => .error (s.faults.getLast?.getD fault)
    | .ok program s =>
      match s.faults.getLast? with
      | some fault => .error fault
      | none =>
        match Parser.strayDefault? program.tree with
        | some span => .error ⟨span.start, .unexpected⟩
        | none => .ok program

/-- What was read from a place on, with the places counted from the start of the text. -/
def behind (n : Nat) : Except Fault Program → Except Fault Program
  | .ok program => .ok (program.moved n)
  | .error fault => .error (fault.moved n)

/-- Reads a source text. A line that addresses the system's loader can only begin it. Blanks and
comments before the first token count for nothing but the places of what follows. -/
def read (dialect : Dialect) (text : List Char) : Except Fault Program :=
  match text with
  | '#' :: '!' :: _ => readFrom dialect (Lexer.first dialect.isModule text)
  | _ =>
    let (start, _, opened) := Lexer.skipGap dialect.isModule .between true text 0
    if opened then .error ⟨start.pos, .unterminated "comment"⟩
    else behind start.pos (readFrom dialect (Lexer.next dialect.isModule true ⟨start.rest, 0⟩))

end Program

end ModuleBundler.Script
