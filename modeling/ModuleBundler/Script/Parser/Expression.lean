import ModuleBundler.Script.Parser.Markup
import ModuleBundler.Script.Parser.Primary

/-!
Operators, conditionals and assignments.
-/
namespace ModuleBundler.Script.Parser

def level? (t : Token) : Option Nat :=
  match t.kind with
  | .mark .coalesce => some 1
  | .mark .either => some 2
  | .mark .both => some 3
  | .mark .bar => some 4
  | .mark .caret => some 5
  | .mark .ampersand => some 6
  | .mark .equal | .mark .notEqual | .mark .strictEqual | .mark .strictNotEqual => some 7
  | .mark .less | .mark .greater | .mark .lessEqual | .mark .greaterEqual
  | .keyword .instanceofWord | .keyword .inWord | .keyword .asWord
  | .keyword .satisfiesWord => some 8
  | .mark .shiftLeft | .mark .shiftRight | .mark .shiftRightZero => some 9
  | .mark .plus | .mark .minus => some 10
  | .mark .star | .mark .slash | .mark .percent => some 11
  | .mark .starStar => some 12
  | _ => none

def operatorBranch (t : Token) : Branch :=
  match t.kind with
  | .mark .coalesce => .coalesce
  | .mark .either => .either
  | .mark .both => .both
  | .mark .starStar => .power
  | operator => .binary operator

def isLogical (n : Node) : Bool := n.isBranch .either || n.isBranch .both

/-- The operators of a level above `level` that follow an expression, with their right sides. -/
def binaryRest (g : Grammar) (start level : Nat) : Nat → Node → Parser Node
  | 0, _ => fail .unexpected
  | fuel + 1, left => do
    let t ← current
    if t.kind == .mark .greater then reread ⟨Lexer.growGreater t, none⟩
    let t ← current
    match level? t with
    | none => return left
    | some own =>
      let stops := if t.kind == .mark .starStar then level > own else level ≥ own
      if stops then return left
      if t.kind == .keyword .inWord && !(← get).context.inOperator then return left
      if t.kind == .keyword .asWord || t.kind == .keyword .satisfiesWord then
        if !g.dialect.typed || t.afterBreak then return left
        advance g
        let kind := if t.kind == .keyword .asWord then Branch.asType else .satisfies
        let right ← g.type
        binaryRest g start level fuel (.branch kind (← spanFrom start) [left, right])
      else
        advance g
        let right ← g.binary own
        let kind := operatorBranch t
        if kind == .coalesce && (isLogical left || isLogical right) then
          complain .mixedCoalescing
        if kind == .power && (left.isBranch .unary || left.isBranch .await_) then
          complain .bareUnaryPower
        binaryRest g start level fuel (.branch kind (← spanFrom start) [left, right])

/-- An expression of the operators above a level. A private name may stand to the left of `in`. -/
def binaryOf (g : Grammar) (level : Nat) : Parser Node := do
  let start ← position
  let t ← current
  let left ← if t.kind == .privateName && (← get).context.inOperator then
      let word ← takeLeaf g .privateName
      expectKeyword g .inWord "in"
      let right ← g.binary 8
      if right.isBranch .privateIn then fail .unexpected
      pure (.branch .privateIn (← spanFrom start) [word, right])
    else g.unary
  binaryRest g start level g.fuel left

/-- An operand follows the current word on its line: a word that is no operator, a number or a
string. Other operands could as well continue an expression that the word begins as a name. -/
def operandFollows (g : Grammar) : Parser Bool :=
  nextIs g fun t => !t.afterBreak && (t.kind == .number || t.isString ||
    (t.isWord && t.kind != .keyword .inWord && t.kind != .keyword .instanceofWord))

def awaitOperates (g : Grammar) : Parser Bool := do
  if (← get).context.awaits then return true
  operandFollows g

def yieldOperates (g : Grammar) : Parser Bool := do
  unless ← atKeyword .yieldWord do return false
  if (← get).context.yields then return true
  operandFollows g

def postfix_ (g : Grammar) : Parser Node := do
  let start ← position
  let n ← g.leftHand
  let t ← current
  if (t.kind == .mark .plusPlus || t.kind == .mark .minusMinus) && !t.afterBreak then
    let n ← simpleTarget n
    advance g
    return .branch .update (← spanFrom start) [n]
  return n

def unaryOf (g : Grammar) : Parser Node := do
  let start ← position
  let t ← current
  match t.kind with
  | .mark .plus | .mark .minus | .mark .tilde | .mark .bang | .keyword .typeofWord
  | .keyword .voidWord | .keyword .deleteWord =>
    advance g
    let n ← g.unary
    return .branch .unary (← spanFrom start) [n]
  | .mark .plusPlus | .mark .minusMinus =>
    advance g
    let n ← simpleTarget (← g.unary)
    return .branch .update (← spanFrom start) [n]
  | .mark .less =>
    if g.dialect.elements then g.markup false
    else if g.dialect.typed then
      advance g
      let type ← g.type
      expect g .greater ">"
      let n ← g.unary
      return .branch .typeAssertion (← spanFrom start) [type, n]
    else fail .unexpected
  | .keyword .awaitWord =>
    if ← awaitOperates g then
      unless (← get).context.awaits do complain (.misplaced "await")
      advance g
      let n ← inContext (fun c => { c with awaits := true }) g.unary
      return .branch .await_ (← spanFrom start) [n]
    else postfix_ g
  | _ => postfix_ g

def yieldExpression (g : Grammar) : Parser Node := do
  let start ← position
  unless (← get).context.yields do complain (.misplaced "yield")
  advance g
  if ← atBreak then return .branch .yield_ (← spanFrom start) []
  let delegates ← eat g .star
  let ends := match (← current).kind with
    | .mark m => [.semicolon, .braceClose, .parenClose, .bracketClose, .colon, .comma].contains m
    | .keyword k => k == .inWord || k == .ofWord
    | .finish => true
    | _ => false
  let value ← if delegates || !ends then pure [← g.assignment true] else pure []
  return .branch .yield_ (← spanFrom start) value

def conditionalRest (g : Grammar) (start : Nat) (resultTypes : Bool) (test : Node) :
    Parser Node := do
  unless ← eat g .question do return test
  let yes ← allowingIn (g.assignment false)
  expect g .colon ":"
  let no ← g.assignment resultTypes
  return .branch .conditional (← spanFrom start) [test, yes, no]

def assignmentOf (g : Grammar) (resultTypes : Bool) : Parser Node := do
  if ← yieldOperates g then return ← yieldExpression g
  if let some n ← parenthesizedArrow g resultTypes then return n
  if let some n ← asyncNameArrow g resultTypes then return n
  let start ← position
  let left ← g.binary 0
  match (← current).kind, left with
  | .mark .arrow, .leaf .identifier span text =>
    arrowFrom g start ⟨false, [.leaf .binding span text], false⟩ resultTypes
  | .mark .assign, _ =>
    let left ← target left
    advance g
    let right ← g.assignment resultTypes
    return .branch .assign (← spanFrom start) [left, right]
  | .mark .compoundAssign, _ | .mark .slashAssign, _ =>
    let left ← simpleTarget left
    advance g
    let right ← g.assignment resultTypes
    return .branch .compoundAssign (← spanFrom start) [left, right]
  | _, _ => conditionalRest g start resultTypes left

end ModuleBundler.Script.Parser
