import ModuleBundler.Script.Parser.Member

/-!
The expressions that operators join, and the accesses and calls that follow them.
-/
namespace ModuleBundler.Script.Parser

def constant (g : Grammar) (kind : Leaf) : Parser Node := do
  let t ← current
  advance g
  return .leaf kind t.span (wordText t)

def parenthesized (g : Grammar) : Parser Node := do
  let start ← position
  advance g
  let from_ ← position
  let (items, ended) ← allowingIn (delimited g .parenClose (g.assignment true))
  if items.isEmpty || ended then fail .unexpected
  let content ← match items with
    | [n] => pure n
    | _ => do pure (.branch .sequence (← spanFrom from_) items)
  expect g .parenClose ")"
  return .branch .parenthesized (← spanFrom start) [content]

def templateLiteral (g : Grammar) (tagged : Bool) : Parser Node := do
  let start ← position
  let parts ← templateOf g tagged (allowingIn (expression g))
  return .branch .template (← spanFrom start) parts

def importCall (g : Grammar) (start : Nat) : Parser Node := do
  expect g .parenOpen "("
  if ← atMark .parenClose then fail (.missing "a specifier")
  let source ← allowingIn (g.assignment true)
  let options ← if ← eat g .comma then
      if ← atMark .parenClose then pure [] else pure [← allowingIn (g.assignment true)]
    else pure []
  discard (eat g .comma)
  expect g .parenClose ")"
  return .branch .importCall (← spanFrom start) (source :: options)

def importExpression (g : Grammar) : Parser Node := do
  let start ← position
  advance g
  if ← eat g .dot then
    match (← current).keyword? with
    | some .metaWord =>
      advance g
      return .leaf .metaProperty (← spanFrom start) "import.meta"
    | some .sourceWord | some .deferWord =>
      advance g
      importCall g start
    | _ => fail .unexpected
  else importCall g start

def argument (g : Grammar) : Parser Node := do
  if ← atMark .ellipsis then spread g else allowingIn (g.assignment true)

/-- Type arguments within an expression. They are taken only before a token that shows they are
no comparison. -/
def expressionTypeArguments? (g : Grammar) : Parser (Option (List Node)) := do
  splitLess
  unless ← eat g .less do return none
  let (items, _) ← delimited g .greater g.type
  if items.isEmpty then complain (.missing "type arguments")
  let t ← current
  unless t.kind == .mark .greater do return none
  if (Lexer.growGreater t).kind == .mark .greaterEqual then return none
  advance g
  let t ← current
  match t.kind with
  | .mark .parenOpen | .template .whole _ | .template .head _ => return some items
  | .mark .less | .mark .greater | .mark .plus | .mark .minus => return none
  | _ => return if t.afterBreak || isBinaryOperator t || !startsExpression t then some items
    else none
where
  isBinaryOperator (t : Token) : Bool :=
    match t.kind with
    | .mark m => [.coalesce, .either, .both, .bar, .caret, .ampersand, .equal, .notEqual,
        .strictEqual, .strictNotEqual, .lessEqual, .shiftLeft, .star, .slash, .percent,
        .starStar].contains m
    | .keyword k => [.instanceofWord, .inWord, .asWord, .satisfiesWord].contains k
    | _ => false
  startsExpression (t : Token) : Bool :=
    match t.kind with
    | .name | .number | .string .. | .template .. | .privateName => true
    | .mark m => [.parenOpen, .bracketOpen, .braceOpen, .slash, .slashAssign, .plus, .minus,
        .tilde, .bang, .plusPlus, .minusMinus, .less, .atSign].contains m
    | .keyword k => !k.isReserved || [.thisWord, .superWord, .nullWord, .trueWord, .falseWord,
        .functionWord, .classWord, .newWord, .deleteWord, .typeofWord, .voidWord, .awaitWord,
        .yieldWord, .importWord].contains k
    | _ => false

/-- What a chain of accesses has come to: the expression, whether `?.` occurred in it, and type
arguments that were read but belong to no call yet. -/
structure Access where
  node : Node
  optional : Bool
  pending : List Node

def Access.settled (start : Nat) (a : Access) : Parser Node := do
  if a.pending.isEmpty then return a.node
  return .branch .instantiation (← spanFrom start) (a.node :: a.pending)

def dottedProperty (g : Grammar) (start : Nat) (n : Node) : Parser Node := do
  if (← current).kind == .privateName then
    let word ← takeLeaf g .privateName
    return .branch .privateMember (← spanFrom start) [n, word]
  let word ← anyWord g
  return .branch .member (← spanFrom start) [n, word]

def bracketedProperty (g : Grammar) (start : Nat) (n : Node) : Parser Node := do
  advance g
  let key ← allowingIn (expression g)
  expect g .bracketClose "]"
  return .branch .element (← spanFrom start) [n, key]

def taggedTemplate (g : Grammar) (start : Nat) (a : Access) : Parser Access := do
  if a.optional then complain (.misplaced "a template after ?.")
  let text ← templateLiteral g true
  return ⟨.branch .tagged (← spanFrom start) (a.node :: a.pending ++ [text]), a.optional, []⟩

def accesses (g : Grammar) (start : Nat) : Nat → Access → Parser Access
  | 0, _ => fail .unexpected
  | fuel + 1, a => do
    let t ← current
    match t.kind with
    | .mark .dot =>
      let n ← a.settled start
      advance g
      accesses g start fuel ⟨← dottedProperty g start n, a.optional, []⟩
    | .mark .bracketOpen =>
      if (← get).context.decorating then return a
      let n ← a.settled start
      accesses g start fuel ⟨← bracketedProperty g start n, a.optional, []⟩
    | .mark .questionDot =>
      let named ← nextIs g fun n => n.isWord || n.kind == .privateName
      let bracketed ← nextIs g (·.kind == .mark .bracketOpen)
      let templated ← nextIs g fun n => match n.kind with
        | .template .. => true
        | _ => false
      if named then
        let n ← a.settled start
        advance g
        accesses g start fuel ⟨← dottedProperty g start n, true, []⟩
      else if bracketed then
        if (← get).context.decorating then return a
        let n ← a.settled start
        advance g
        accesses g start fuel ⟨← bracketedProperty g start n, true, []⟩
      else if templated then
        advance g
        accesses g start fuel (← taggedTemplate g start { a with optional := true })
      else return a
    | .template .whole _ | .template .head _ =>
      accesses g start fuel (← taggedTemplate g start a)
    | .mark .bang =>
      if g.dialect.typed && !t.afterBreak then
        let n ← a.settled start
        advance g
        accesses g start fuel ⟨.branch .nonNull (← spanFrom start) [n], a.optional, []⟩
      else return a
    | .mark .less | .mark .shiftLeft =>
      unless g.dialect.typed do return a
      match ← attempt (expressionTypeArguments? g) with
      | some types =>
        let n ← a.settled start
        accesses g start fuel ⟨n, a.optional, types⟩
      | none => return a
    | _ => return a

def callsAndAccesses (g : Grammar) (start : Nat) : Nat → Access → Parser Access
  | 0, _ => fail .unexpected
  | fuel + 1, a => do
    let a ← accesses g start g.fuel a
    if ← eat g .questionDot then
      let types ← if ← pure g.dialect.typed <&&> atLess then typeArguments g else pure []
      unless ← atMark .parenOpen do fail .unexpected
      let n ← a.settled start
      let inputs ← enclosed g .parenOpen .parenClose (argument g)
      callsAndAccesses g start fuel ⟨.call (← spanFrom start) n types inputs, true, []⟩
    else if ← atMark .parenOpen then
      let inputs ← enclosed g .parenOpen .parenClose (argument g)
      callsAndAccesses g start fuel
        ⟨.call (← spanFrom start) a.node a.pending inputs, a.optional, []⟩
    else return a

def newExpression (g : Grammar) : Parser Node := do
  let start ← position
  advance g
  if ← eat g .dot then
    if ← eatKeyword g .targetWord then
      return .leaf .metaProperty (← spanFrom start) "new.target"
    fail .unexpected
  let from_ ← position
  let n ← g.primary
  let a ← accesses g from_ g.fuel ⟨n, false, []⟩
  let inputs ← if ← atMark .parenOpen then
      enclosed g .parenOpen .parenClose (argument g)
    else pure []
  if a.node.isBranch .importCall then complain (.misplaced "an import call")
  if a.optional then complain (.misplaced "?. after new")
  return .branch .new_ (← spanFrom start) (a.node :: a.pending ++ inputs)

def superExpression (g : Grammar) : Parser Node := do
  let n ← constant g .super
  match (← current).kind with
  | .mark .dot | .mark .bracketOpen | .mark .parenOpen => pure ()
  | _ => complain (.misplaced "super")
  return n

def decoratedClass (g : Grammar) : Parser Node := do
  let start ← position
  let marks ← decorators g
  unless ← atKeyword .classWord do fail (.misplaced "a decorator")
  classOf g start marks

def primaryOf (g : Grammar) : Parser Node := do
  let start ← position
  if ← atFunction g then
    let isAsync ← eatKeyword g .asyncWord
    return ← function g .expression start isAsync false
  let t ← current
  match t.kind with
  | .mark .parenOpen => parenthesized g
  | .mark .bracketOpen => arrayLiteral g
  | .mark .braceOpen => objectLiteral g
  | .mark .atSign => decoratedClass g
  | .mark .slash | .mark .slashAssign =>
    reread (Lexer.regexp t)
    constant g .regexp
  | .mark .less =>
    if g.dialect.elements then g.markup false else fail .unexpected
  | .string .. => stringLeaf g .string
  | .number => constant g .number
  | .template .whole _ | .template .head _ => templateLiteral g false
  | .keyword .classWord => classOf g start []
  | .keyword .thisWord => constant g .this
  | .keyword .newWord => newExpression g
  | .keyword .superWord => superExpression g
  | .keyword .importWord => importExpression g
  | .keyword .nullWord | .keyword .trueWord | .keyword .falseWord => constant g .constant
  | _ => identifier g

def leftHandOf (g : Grammar) : Parser Node := do
  let start ← position
  let n ← g.primary
  let a ← callsAndAccesses g start g.fuel ⟨n, false, []⟩
  let n := a.node
  let n ← if a.optional then pure (.branch .chain (← spanFrom start) [n]) else pure n
  ({ a with node := n } : Access).settled start

end ModuleBundler.Script.Parser
