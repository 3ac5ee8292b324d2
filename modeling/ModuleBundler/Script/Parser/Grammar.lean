import ModuleBundler.Script.Parser.State

/-!
The parts of the grammar that refer to each other, and the steps all of them use. A construct
reads the constructs inside it through `Grammar`, whose fields are the same grammar with one
level of nesting less to spend.
-/
namespace ModuleBundler.Script

structure Grammar where
  dialect : Dialect
  /-- The nesting that may still follow; it also bounds the length of each list. -/
  fuel : Nat
  /-- An expression without commas. Within the first branch of a conditional, an arrow function
  does not claim a colon as its result type. -/
  assignment : (resultTypes : Bool) → Parser Node
  /-- Operators that bind more tightly than a level. -/
  binary : (level : Nat) → Parser Node
  unary : Parser Node
  leftHand : Parser Node
  primary : Parser Node
  /-- A statement; `alone` where it is the only body of another statement. -/
  statement : (alone : Bool) → Parser Node
  pattern : Parser Node
  type : Parser Node
  typeOperand : Parser Node
  /-- An element such as `<a/>`, from its first sign. `inside` when it is the child of another. -/
  markup : (inside : Bool) → Parser Node

namespace Grammar

def exhausted (dialect : Dialect) : Grammar where
  dialect := dialect
  fuel := 0
  assignment _ := Parser.fail .unexpected
  binary _ := Parser.fail .unexpected
  unary := Parser.fail .unexpected
  leftHand := Parser.fail .unexpected
  primary := Parser.fail .unexpected
  statement _ := Parser.fail .unexpected
  pattern := Parser.fail .unexpected
  type := Parser.fail .unexpected
  typeOperand := Parser.fail .unexpected
  markup _ := Parser.fail .unexpected

end Grammar

namespace Parser

/-- Moves to the next token; the current one was read as the name it spells. -/
def advanceName (g : Grammar) : Parser Unit := do
  accept (Lexer.next g.dialect.isModule false (← afterToken))

/-- Moves to the next token. A keyword must not have been written with escapes. -/
def advance (g : Grammar) : Parser Unit := do
  let t ← current
  if t.escaped && t.keyword?.isSome then complain .escapedKeyword
  advanceName g

def eat (g : Grammar) (m : Mark) : Parser Bool := do
  if ← atMark m then
    advance g
    return true
  return false

def eatKeyword (g : Grammar) (k : Keyword) : Parser Bool := do
  if ← atKeyword k then
    advance g
    return true
  return false

def expect (g : Grammar) (m : Mark) (what : String) : Parser Unit := do
  unless ← eat g m do fail (.expected what)

def expectKeyword (g : Grammar) (k : Keyword) (what : String) : Parser Unit := do
  unless ← eatKeyword g k do fail (.expected what)

def nextIs (g : Grammar) (p : Token → Bool) : Parser Bool :=
  lookahead do
    advance g
    return p (← current)

def endStatement (g : Grammar) : Parser Unit := do
  unless ← eat g .semicolon do
    unless ← mayEnd do fail .missingSemicolon

def many (fuel : Nat) (step : Parser (Option Node)) (taken : List Node) : Parser (List Node) :=
  match fuel with
  | 0 => fail .unexpected
  | fuel + 1 => do
    match ← step with
    | some n => many fuel step (n :: taken)
    | none => return taken.reverse

def until_ (g : Grammar) (close : Mark) (item : Parser Node) : Parser (List Node) :=
  many g.fuel (do
    if ← atMark close then return none
    return some (← item)) []

/-- The items after the first of a list with separating commas, and whether a comma ends it. -/
def delimitedTail (g : Grammar) (close : Mark) (item : Parser Node) :
    Nat → List Node → Parser (List Node × Bool)
  | 0, _ => fail .unexpected
  | fuel + 1, taken => do
    if ← atMark close then return (taken.reverse, false)
    expect g .comma "a comma"
    if ← atMark close then return (taken.reverse, true)
    let n ← item
    delimitedTail g close item fuel (n :: taken)

def delimited (g : Grammar) (close : Mark) (item : Parser Node) : Parser (List Node × Bool) := do
  if ← atMark close then return ([], false)
  let n ← item
  delimitedTail g close item g.fuel [n]

def enclosed (g : Grammar) (opening close : Mark) (item : Parser Node) : Parser (List Node) := do
  expect g opening "an opening mark"
  let (items, _) ← delimited g close item
  expect g close "a closing mark"
  return items

/-- A list with separating commas whose last item may be a rest element, which no comma follows
unless the declaration is ambient. -/
def delimitedWithRest (g : Grammar) (close : Mark) (item restItem : Parser Node) :
    Nat → (first rested : Bool) → List Node → Parser (List Node)
  | 0, _, _, _ => fail .unexpected
  | fuel + 1, first, rested, taken => do
    if ← atMark close then return taken.reverse
    unless first do
      expect g .comma "a comma"
    if !first && (← atMark close) then
      if rested && !(← get).context.ambient then complain .restNotLast
      return taken.reverse
    if rested then complain .restNotLast
    if ← atMark .ellipsis then
      let n ← restItem
      delimitedWithRest g close item restItem fuel false true (n :: taken)
    else
      let n ← item
      delimitedWithRest g close item restItem fuel false rested (n :: taken)

def wordText (t : Token) : String := String.ofList t.text

def takeLeaf (g : Grammar) (kind : Leaf) : Parser Node := do
  let t ← current
  advanceName g
  return .leaf kind t.span (wordText t)

def checkName (t : Token) (c : Context) : Parser Unit := do
  if c.awaits && t.kind == .keyword .awaitWord then complain (.misplaced "await")
  if c.yields && t.kind == .keyword .yieldWord then complain (.misplaced "yield")

def identifier (g : Grammar) : Parser Node := do
  let t ← current
  unless t.isBinding do fail .unexpected
  checkName t (← get).context
  takeLeaf g .identifier

def bindingName (g : Grammar) : Parser Node := do
  let t ← current
  unless t.isBinding do fail (.expected "a name")
  checkName t (← get).context
  takeLeaf g .binding

def anyWord (g : Grammar) : Parser Node := do
  unless (← current).isWord do fail (.expected "a name")
  takeLeaf g .word

def stringLeaf (g : Grammar) (kind : Leaf) : Parser Node := do
  let t ← current
  match t.kind with
  | .string value _ =>
    advance g
    return .leaf kind t.span (String.ofList value)
  | _ => fail (.expected "a string")

def expression (g : Grammar) : Parser Node := do
  let start ← position
  let wasDecorating := (← get).context.decorating
  modify fun s => { s with context := { s.context with decorating := false } }
  let first ← g.assignment true
  let rest ← many g.fuel (do
    if ← eat g .comma then return some (← g.assignment true)
    return none) []
  modify fun s => { s with context := { s.context with decorating := wasDecorating } }
  if rest.isEmpty then return first
  return .branch .sequence (← spanFrom start) (first :: rest)

def parenthesizedHead (g : Grammar) : Parser Node := do
  expect g .parenOpen "("
  let n ← allowingIn (expression g)
  expect g .parenClose ")"
  return n

/-- The key of a property: a word, a string, a number, a private name or an expression in
brackets. Says whether it is in brackets. -/
def propertyKey (g : Grammar) : Parser (Node × Bool) := do
  let t ← current
  match t.kind with
  | .mark .bracketOpen =>
    advance g
    let n ← allowingIn (g.assignment true)
    expect g .bracketClose "]"
    return (n, true)
  | .string .. => return (← stringLeaf g .text, false)
  | .number =>
    advance g
    return (.leaf .number t.span "", false)
  | .privateName =>
    advance g
    return (.leaf .privateName t.span (wordText t), false)
  | _ => return (← anyWord g, false)

end Parser

end ModuleBundler.Script
