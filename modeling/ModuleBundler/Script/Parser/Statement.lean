import ModuleBundler.Script.Parser.Expression
import ModuleBundler.Script.Parser.Module

/-!
Statements.
-/
namespace ModuleBundler.Script.Parser

def expressionStatement (g : Grammar) (start : Nat) (n : Node) : Parser Node := do
  endStatement g
  return .branch .expressionStatement (← spanFrom start) [n]

def expressionOrLabel (g : Grammar) : Parser Node := do
  let start ← position
  let n ← allowingIn (expression g)
  match n with
  | .leaf .identifier span text =>
    if ← eat g .colon then
      let body ← g.statement true
      return .branch .labeled (← spanFrom start) [.leaf .word span text, body]
    expressionStatement g start n
  | _ => expressionStatement g start n

/-- Variables as a statement. Only `var` may be the body of another statement. -/
def variableStatement (g : Grammar) (start : Nat) (word : VariableWord) (alone : Bool) :
    Parser Node := do
  let n ← variableList g start word true
  if alone && word ≠ .var then complain (.misplaced "a declaration")
  return n

def letStatement (g : Grammar) (alone : Bool) : Parser Node := do
  let start ← position
  let operates ← nextIs g fun t => match t.kind with
    | .mark .semicolon | .mark .dot | .mark .parenOpen | .mark .assign | .mark .compoundAssign
    | .mark .slashAssign => true
    | _ => (level? t).isSome && t.kind != .keyword .asWord && t.kind != .keyword .satisfiesWord
  let bracketed ← nextIs g (·.kind == .mark .bracketOpen)
  if operates || (alone && !bracketed) then expressionOrLabel g
  else
    advance g
    variableStatement g start .let_ alone

def atUsing (g : Grammar) : Parser Bool := do
  if ← atKeyword .usingWord then nextIs g fun t => t.isBinding && !t.afterBreak
  else if ← atKeyword .awaitWord then
    lookahead do
      advance g
      let t ← current
      unless t.kind == .keyword .usingWord && !t.afterBreak do return false
      nextIs g fun t => t.isBinding && !t.afterBreak
  else return false

def usingWords (g : Grammar) : Parser Unit := do
  if ← atKeyword .awaitWord then advance g
  advance g

def countingRest (g : Grammar) (start : Nat) (awaits : Bool) (before : List Node) :
    Parser Node := do
  expect g .semicolon ";"
  let ended : Parser Bool := do return (← atMark .semicolon) || (← atMark .parenClose)
  let test ← if ← ended then pure [] else pure [← allowingIn (expression g)]
  expect g .semicolon ";"
  let step ← if ← atMark .parenClose then pure [] else pure [← allowingIn (expression g)]
  expect g .parenClose ")"
  if awaits then complain (.misplaced "await")
  let body ← g.statement true
  return .branch .for_ (← spanFrom start) (before ++ test ++ step ++ [body])

def iterationRest (g : Grammar) (start : Nat) (awaits overKeys : Bool) (left : Node) :
    Parser Node := do
  advance g
  let right ← allowingIn (if overKeys then expression g else g.assignment true)
  expect g .parenClose ")"
  if overKeys && awaits then complain (.misplaced "await")
  let body ← g.statement true
  return .branch (if overKeys then .forIn else .forOf) (← spanFrom start) [left, right, body]

def declaringLoop (g : Grammar) (start : Nat) (awaits : Bool) (word : VariableWord)
    (declared : Node) : Parser Node := do
  if ← atKeyword .inWord then iterationRest g start awaits true declared
  else if ← atKeyword .ofWord then iterationRest g start awaits false declared
  else
    if let .branch (.variableList _) _ parts := declared then
      for n in parts do checkInitialized word n
    countingRest g start awaits [declared]

def loopVariables (g : Grammar) (word : VariableWord) : Parser Node := do
  let start ← position
  if word = .using then usingWords g else advance g
  inContext (fun c => { c with inOperator := false }) (variableList g start word false)

def expressionLoop (g : Grammar) (start : Nat) (awaits : Bool) : Parser Node := do
  let startsLet ← atKeyword .letWord
  let n ← inContext (fun c => { c with inOperator := false }) (expression g)
  if ← atKeyword .inWord then iterationRest g start awaits true (← target n)
  else if ← atKeyword .ofWord then
    let plainAsync := match n with
      | .leaf .identifier _ "async" => true
      | _ => false
    if startsLet || (plainAsync && !awaits) then complain .unexpected
    iterationRest g start awaits false (← target n)
  else countingRest g start awaits [n]

def forStatement (g : Grammar) : Parser Node := do
  let start ← position
  advance g
  let awaits ← atKeyword .awaitWord
  if awaits then
    unless (← get).context.awaits do complain (.misplaced "await")
    advance g
  expect g .parenOpen "("
  if (← atMark .semicolon) || (← atMark .parenClose) then
    return ← countingRest g start awaits []
  if ← atKeyword .varWord then
    return ← declaringLoop g start awaits .var (← loopVariables g .var)
  if ← atKeyword .constWord then
    return ← declaringLoop g start awaits .const (← loopVariables g .const)
  let declaresLet ← if ← atKeyword .letWord then
      nextIs g fun t => t.kind == .mark .braceOpen || t.kind == .mark .bracketOpen ||
        (t.isWord && t.kind != .keyword .inWord)
    else pure false
  if declaresLet then return ← declaringLoop g start awaits .let_ (← loopVariables g .let_)
  let declaresUsing ← if ← atUsing g then do
      let ofLoop ← if ← atKeyword .usingWord then nextIs g (·.kind == .keyword .ofWord)
        else pure false
      pure !ofLoop
    else pure false
  if declaresUsing then return ← declaringLoop g start awaits .using (← loopVariables g .using)
  expressionLoop g start awaits

def ifStatement (g : Grammar) : Parser Node := do
  let start ← position
  advance g
  let test ← parenthesizedHead g
  let yes ← g.statement true
  let no ← if ← eatKeyword g .elseWord then pure [← g.statement true] else pure []
  return .branch .if_ (← spanFrom start) (test :: yes :: no)

def doStatement (g : Grammar) : Parser Node := do
  let start ← position
  advance g
  let body ← g.statement true
  expectKeyword g .whileWord "while"
  let test ← parenthesizedHead g
  discard (eat g .semicolon)
  return .branch .doWhile (← spanFrom start) [body, test]

def guardedStatement (g : Grammar) (kind : Branch) : Parser Node := do
  let start ← position
  advance g
  let test ← parenthesizedHead g
  let body ← g.statement true
  return .branch kind (← spanFrom start) [test, body]

def jumpStatement (g : Grammar) (kind : Branch) : Parser Node := do
  let start ← position
  advance g
  let label ← if ← mayEnd then pure [] else do
    let t ← current
    unless t.isBinding do fail .unexpected
    checkName t (← get).context
    pure [← takeLeaf g .word]
  endStatement g
  return .branch kind (← spanFrom start) label

def switchCase (g : Grammar) : Parser Node := do
  let start ← position
  let test ← if ← eatKeyword g .defaultWord then pure [] else do
    expectKeyword g .caseWord "case"
    pure [← allowingIn (expression g)]
  expect g .colon ":"
  let body ← many g.fuel (do
    match (← current).kind with
    | .keyword .caseWord | .keyword .defaultWord | .mark .braceClose | .finish => return none
    | _ => return some (← g.statement false)) []
  return .branch .case_ (← spanFrom start) (test ++ body)

def switchStatement (g : Grammar) : Parser Node := do
  let start ← position
  advance g
  let subject ← parenthesizedHead g
  expect g .braceOpen "an opening brace"
  let cases ← until_ g .braceClose (switchCase g)
  expect g .braceClose "a closing brace"
  return .branch .switch_ (← spanFrom start) (subject :: cases)

def throwStatement (g : Grammar) : Parser Node := do
  let start ← position
  advance g
  if ← atBreak then complain (.lineBreak "throw")
  let n ← allowingIn (expression g)
  endStatement g
  return .branch .throw_ (← spanFrom start) [n]

def returnStatement (g : Grammar) : Parser Node := do
  let start ← position
  unless (← get).context.returns do complain (.misplaced "return")
  advance g
  let value ← if ← mayEnd then pure [] else pure [← allowingIn (expression g)]
  endStatement g
  return .branch .return_ (← spanFrom start) value

def tryStatement (g : Grammar) : Parser Node := do
  let start ← position
  advance g
  let body ← block g
  let handler ← if ← atKeyword .catchWord then do
      let from_ ← position
      advance g
      let caught ← if ← eat g .parenOpen then do
          let n ← typedPattern g false
          expect g .parenClose ")"
          pure [n]
        else pure []
      let body ← block g
      pure [.branch .catch_ (← spanFrom from_) (caught ++ [body])]
    else pure []
  let final ← if ← eatKeyword g .finallyWord then pure [← block g] else pure []
  if handler.isEmpty && final.isEmpty then complain (.missing "catch or finally")
  return .branch .try_ (← spanFrom start) (body :: handler ++ final)

def classStatement (g : Grammar) (start : Nat) (alone : Bool) (marks : List Node) :
    Parser Node := do
  if alone then complain (.misplaced "a class")
  classOf g start marks

def decoratedStatement (g : Grammar) (alone : Bool) : Parser Node := do
  let start ← position
  let marks ← decorators g
  if ← atKeyword .exportWord then return ← exportDeclaration g start marks
  let taken ← if g.dialect.typed then modifiers g false false else pure []
  unless ← atKeyword .classWord do fail (.misplaced "a decorator")
  let inside (c : Context) : Context :=
    { c with ambient := c.ambient || taken.contains .declareWord }
  inContext inside (classStatement g start alone marks)

def importStatement (g : Grammar) : Parser Node := do
  let start ← position
  if ← nextIs g fun t => t.kind == .mark .dot || t.kind == .mark .parenOpen then
    expressionOrLabel g
  else
    advance g
    importDeclaration g start

def constStatement (g : Grammar) (alone : Bool) : Parser Node := do
  let start ← position
  advance g
  if ← pure g.dialect.typed <&&> atKeyword .enumWord then enumDeclaration g start
  else variableStatement g start .const alone

def typedOrExpression (g : Grammar) : Parser Node := do
  if ← pure g.dialect.typed <&&> lookahead (declares g g.fuel) then
    declaration g (← position) []
  else expressionOrLabel g

def asyncStatement (g : Grammar) (alone : Bool) : Parser Node := do
  if ← atAsyncFunction g then
    let start ← position
    advance g
    function g .declaration start true alone
  else typedOrExpression g

def statementOf (g : Grammar) (alone : Bool) : Parser Node := do
  let start ← position
  let t ← current
  match t.kind with
  | .mark .braceOpen => block g
  | .mark .semicolon =>
    advance g
    return .leaf .empty t.span ""
  | .mark .atSign => decoratedStatement g alone
  | .keyword k =>
    match k with
    | .ifWord => ifStatement g
    | .doWord => doStatement g
    | .whileWord => guardedStatement g .while_
    | .withWord => guardedStatement g .with_
    | .forWord => forStatement g
    | .continueWord => jumpStatement g .continue_
    | .breakWord => jumpStatement g .break_
    | .switchWord => switchStatement g
    | .throwWord => throwStatement g
    | .tryWord => tryStatement g
    | .debuggerWord =>
      advance g
      endStatement g
      return .leaf .empty t.span ""
    | .classWord => classStatement g start alone []
    | .exportWord => exportDeclaration g start []
    | .returnWord => returnStatement g
    | .varWord =>
      advance g
      variableStatement g start .var alone
    | .functionWord => function g .declaration start false alone
    | .letWord => if t.escaped then expressionOrLabel g else letStatement g alone
    | .asyncWord => asyncStatement g alone
    | .importWord => importStatement g
    | .constWord => constStatement g alone
    | .usingWord | .awaitWord =>
      if ← atUsing g then
        usingWords g
        variableStatement g start .using alone
      else expressionOrLabel g
    | .interfaceWord | .typeWord | .moduleWord | .namespaceWord | .declareWord | .enumWord
    | .privateWord | .protectedWord | .publicWord | .abstractWord | .accessorWord
    | .staticWord | .readonlyWord | .globalWord => typedOrExpression g
    | _ => expressionOrLabel g
  | _ => expressionOrLabel g

end ModuleBundler.Script.Parser
