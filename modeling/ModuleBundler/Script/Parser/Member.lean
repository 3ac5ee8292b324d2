import ModuleBundler.Script.Parser.Function

/-!
Object literals and classes.
-/
namespace ModuleBundler.Script.Parser

/-- What a getter or setter has after its key. A getter takes nothing, a setter one parameter. -/
def accessorRest (g : Grammar) (kind : Branch) (start : Nat) (isSetter : Bool)
    (before : List Node) : Parser Node := do
  let inside (c : Context) : Context :=
    { c with inOperator := true, awaits := false, yields := false }
  let parts ← inContext inside do
    let generics ← typeParameters g
    let inputs ← parameters g false
    let counted := inputs.filter fun n =>
      !(n.isLeaf .this || match n with
        | .branch .annotated _ (.leaf .this .. :: _) => true
        | _ => false)
    let fits := if isSetter then counted.length == 1 && !counted.any (·.isBranch .rest)
      else counted.isEmpty
    unless fits do complain (.misplaced "this parameter list")
    let result ← resultType g
    let rest := generics ++ inputs ++ result
    if ← pure g.dialect.typed <&&> (return !(← atMark .braceOpen)) then
      endStatement g
      return rest
    else return rest ++ [← functionBody g]
  return .branch kind (← spanFrom start) (before ++ parts)

def atSignature (g : Grammar) : Parser Bool := do
  return (← atMark .parenOpen) || (g.dialect.typed && (← atMark .less))

def spread (g : Grammar) : Parser Node := do
  let start ← position
  advance g
  let n ← allowingIn (g.assignment true)
  return .branch .spread (← spanFrom start) [n]

def objectItem (g : Grammar) : Parser Node := do
  if ← atMark .ellipsis then return ← spread g
  let start ← position
  let taken ← modifiers g false false
  let getter ← accessorWord g .getWord
  let setter ← if getter then pure false else accessorWord g .setWord
  let isGenerator ← eat g .star
  let t ← current
  let (key, bracketed) ← propertyKey g
  if t.kind == .privateName then complain (.misplaced "a private name")
  if getter || setter then
    allowOnly (fun _ => false) taken
    if isGenerator then complain .unexpected
    return ← accessorRest g .method start setter [key]
  if isGenerator || (← atSignature g) then
    allowOnly (· == .asyncWord) taken
    return ← functionRest g .method start (taken.contains .asyncWord) isGenerator false [key]
  allowOnly (fun _ => false) taken
  if t.isBinding && !bracketed && !(← atMark .colon) then
    checkName t (← get).context
    let word := Node.leaf .identifier t.span (wordText t)
    if ← eat g .assign then
      let value ← allowingIn (g.assignment true)
      return .branch .shorthand (← spanFrom start) [word, value]
    return .branch .shorthand (← spanFrom start) [word]
  expect g .colon ":"
  let value ← allowingIn (g.assignment true)
  return .branch .property (← spanFrom start) [key, value]

def rememberComma (start : Nat) (ended : Bool) : Parser Unit := do
  if ended then modify fun s => { s with trailingCommas := start :: s.trailingCommas }

def objectLiteral (g : Grammar) : Parser Node := do
  let start ← position
  advance g
  let (items, ended) ← delimited g .braceClose (objectItem g)
  rememberComma start ended
  expect g .braceClose "a closing brace"
  return .branch .object (← spanFrom start) items

def arrayItem (g : Grammar) : Parser Node := do
  let t ← current
  match t.kind with
  | .mark .comma => return .leaf .hole ⟨t.span.start, t.span.start⟩ ""
  | .mark .ellipsis => spread g
  | _ => allowingIn (g.assignment true)

def arrayLiteral (g : Grammar) : Parser Node := do
  let start ← position
  advance g
  let (items, ended) ← delimited g .bracketClose (arrayItem g)
  rememberComma start ended
  expect g .bracketClose "]"
  return .branch .array (← spanFrom start) items

def keyText? (key : Node) (bracketed : Bool) : Option String :=
  match key with
  | .leaf .word _ text | .leaf .text _ text => if bracketed then none else some text
  | _ => none

/-- The kinds of class element whose names are restricted. -/
inductive ElementRole where
  | method (isAsync isGenerator : Bool)
  | accessor
  | field
deriving DecidableEq

def checkElementName (role : ElementRole) (isStatic : Bool) (key : Node) (bracketed : Bool) :
    Parser Unit := do
  if let .leaf .privateName _ "constructor" := key then complain (.misplaced "this name")
  match keyText? key bracketed with
  | some "constructor" =>
    match role with
    | .field => complain (.misplaced "this name")
    | .method isAsync isGenerator =>
      if !isStatic && (isAsync || isGenerator) then complain (.misplaced "this constructor")
    | .accessor => unless isStatic do complain (.misplaced "this constructor")
  | some "prototype" => if isStatic then complain (.misplaced "this name")
  | _ => pure ()

def fieldValue (g : Grammar) : Parser (List Node) := do
  if ← eat g .assign then
    let inside (c : Context) : Context :=
      { c with inOperator := true, yields := false, awaits := false }
    return [← inContext inside (g.assignment true)]
  return []

def staticBlock (g : Grammar) (start : Nat) : Parser Node := do
  advance g
  expect g .braceOpen "an opening brace"
  let inside (c : Context) : Context :=
    { c with inOperator := true, yields := false, awaits := true, returns := false }
  let parts ← inContext inside (until_ g .braceClose (g.statement false))
  expect g .braceClose "a closing brace"
  return .branch .staticBlock (← spanFrom start) parts

/-- A class element after its modifiers, unless it is a static block or an index signature. -/
def namedElement (g : Grammar) (start : Nat) (before : List Node) (taken : List Keyword) :
    Parser Node := do
  let isStatic := taken.contains .staticWord
  let isAsync := taken.contains .asyncWord
  let getter ← accessorWord g .getWord
  let setter ← if getter then pure false else accessorWord g .setWord
  let isGenerator ← eat g .star
  let (key, bracketed) ← propertyKey g
  if key.isLeaf .privateName then
    allowOnly (fun k => !k.isAccess) taken
  if getter || setter then
    if isGenerator || isAsync then complain .unexpected
    checkElementName .accessor isStatic key bracketed
    return ← accessorRest g .method start setter (before ++ [key])
  let isOptional ← pure g.dialect.typed <&&> eat g .question
  if isGenerator || (← atSignature g) then
    checkElementName (.method isAsync isGenerator) isStatic key bracketed
    let constructs := !isStatic && keyText? key bracketed == some "constructor"
    return ← functionRest g .method start isAsync isGenerator constructs (before ++ [key])
  checkElementName .field isStatic key bracketed
  if isAsync then complain .unexpected
  if g.dialect.typed && !isOptional && !(← atBreak) then discard (eat g .bang)
  let types ← annotation g
  let value ← fieldValue g
  endStatement g
  return .branch .field (← spanFrom start) (before ++ key :: types ++ value)

def classElement (g : Grammar) : Parser Node := do
  let start ← position
  let marks ← decorators g
  let taken ← modifiers g true true
  unless g.dialect.typed do
    allowOnly (fun k => k == .asyncWord || k == .staticWord || k == .accessorWord) taken
  if (← atKeyword .staticWord) && (← nextIs g (·.kind == .mark .braceOpen)) then
    unless marks.isEmpty do complain (.misplaced "a decorator")
    return ← staticBlock g start
  if g.dialect.typed && (← startsIndexSignature g) then return ← indexSignature g
  let inside (c : Context) : Context :=
    { c with ambient := c.ambient || taken.contains .declareWord }
  inContext inside (namedElement g start marks taken)

def baseClass (g : Grammar) : Parser Node := do
  let start ← position
  let n ← g.leftHand
  let args ← if g.dialect.typed && (← atLess) then typeArguments g else pure []
  return .branch .heritage (← spanFrom start) (n :: args)

def heritage (g : Grammar) : Nat → (extended implemented : Bool) → List Node → Parser (List Node)
  | 0, _, _, _ => fail .unexpected
  | fuel + 1, extended, implemented, taken => do
    if ← eatKeyword g .extendsWord then
      if extended || implemented then complain (.misplaced "this base class")
      let base ← baseClass g
      let more ← many g.fuel (do
        if ← eat g .comma then
          complain (.misplaced "a second base class")
          return some (← baseClass g)
        return none) []
      heritage g fuel true implemented (taken ++ base :: more)
    else if ← pure g.dialect.typed <&&> eatKeyword g .implementsWord then
      if implemented then complain (.duplicate "interface list")
      let (items, _) ← delimited g .braceOpen (do
        let start ← position
        let path ← entityName g
        let args ← optionalTypeArguments g
        return .branch .heritage (← spanFrom start) (path ++ args))
      heritage g fuel extended true (taken ++ items)
    else return taken

def classOf (g : Grammar) (start : Nat) (before : List Node) : Parser Node := do
  advance g
  let t ← current
  let name ← if t.isBinding && t.kind != .keyword .implementsWord then pure [← bindingName g]
    else pure []
  let generics ← typeParameters g
  let bases ← heritage g g.fuel false false []
  expect g .braceOpen "an opening brace"
  let members ← many g.fuel (do
    discard (many g.fuel (do
      if ← eat g .semicolon then return some (.leaf .empty ⟨0, 0⟩ "")
      return none) [])
    if ← atMark .braceClose then return none
    return some (← classElement g)) []
  expect g .braceClose "a closing brace"
  return .branch .class_ (← spanFrom start) (before ++ name ++ generics ++ bases ++ members)

end ModuleBundler.Script.Parser
