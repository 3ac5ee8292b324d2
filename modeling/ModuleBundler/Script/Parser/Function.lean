import ModuleBundler.Script.Parser.Type
import ModuleBundler.Script.Parser.Pattern

/-!
Functions: their bodies, their parameters and arrow functions.
-/
namespace ModuleBundler.Script.Parser

def functionBody (g : Grammar) : Parser Node := do
  let start ← position
  expect g .braceOpen "an opening brace"
  let inside (c : Context) : Context :=
    { c with inOperator := true, returns := true, decorating := false, plainTypes := false }
  let parts ← inContext inside (until_ g .braceClose (g.statement false))
  expect g .braceClose "a closing brace"
  return .branch .body (← spanFrom start) parts

/-- A function from its type parameters on. In the typed variant the body may be missing. -/
def functionRest (g : Grammar) (kind : Branch) (start : Nat)
    (isAsync isGenerator ofConstructor : Bool) (before : List Node) : Parser Node := do
  let inside (c : Context) : Context :=
    { c with inOperator := true, awaits := isAsync, yields := isGenerator }
  let parts ← inContext inside do
    let generics ← typeParameters g
    let inputs ← parameters g ofConstructor
    let result ← resultType g
    let rest := generics ++ inputs ++ result
    if ← pure g.dialect.typed <&&> (return !(← atMark .braceOpen)) then
      endStatement g
      return rest
    else return rest ++ [← functionBody g]
  return .branch kind (← spanFrom start) (before ++ parts)

inductive FunctionPlace where
  | declaration | defaultExport | expression
deriving DecidableEq

/-- The name of a function. A function expression decides by itself whether `await` and `yield`
may name it. -/
def functionName (g : Grammar) (place : FunctionPlace) (isAsync isGenerator : Bool) :
    Parser (List Node) := do
  let t ← current
  if t.isBinding then
    let c := (← get).context
    checkName t (if place = .expression then { c with awaits := isAsync, yields := isGenerator }
      else c)
    return [← takeLeaf g .binding]
  if place = .declaration then complain (.missing "a function name")
  return []

def function (g : Grammar) (place : FunctionPlace) (start : Nat) (isAsync alone : Bool) :
    Parser Node := do
  expectKeyword g .functionWord "function"
  let isGenerator ← eat g .star
  if alone && (isAsync || isGenerator) then complain (.misplaced "this function")
  let name ← functionName g place isAsync isGenerator
  functionRest g (.function isAsync isGenerator) start isAsync isGenerator false name

def atAsyncFunction (g : Grammar) : Parser Bool := do
  if ← atKeyword .asyncWord then
    nextIs g fun t => t.kind == .keyword .functionWord && !t.afterBreak
  else return false

def atFunction (g : Grammar) : Parser Bool := do
  if ← atKeyword .functionWord then return true
  atAsyncFunction g

def arrowSign (g : Grammar) : Parser Unit := do
  if ← atBreak then complain (.lineBreak "the parameters of an arrow function")
  expect g .arrow "=>"

def arrowBody (g : Grammar) (isAsync resultTypes : Bool) : Parser Node :=
  inContext (fun c => { c with awaits := isAsync, yields := false }) do
    if ← atMark .braceOpen then functionBody g else g.assignment resultTypes

/-- Whether parentheses here start an arrow function, as far as a few tokens tell. -/
inductive ArrowGuess where
  | no | yes | perhaps

def guessAfterParen (g : Grammar) : Parser ArrowGuess := do
  let second ← current
  match second.kind with
  | .mark .parenClose =>
    advance g
    match (← current).kind with
    | .mark .arrow | .mark .colon | .mark .braceOpen => return .yes
    | _ => return .no
  | .mark .bracketOpen | .mark .braceOpen => return .perhaps
  | .mark .ellipsis =>
    advance g
    let third ← current
    if third.kind == .name then return .yes
    if third.isLiteral then return .no
    return .perhaps
  | _ =>
    advance g
    let third ← current
    if second.keyword?.any (fun k => k.isModifier && k != .asyncWord) && third.isIdentifier then
      return if third.kind == .keyword .asWord then .no else .yes
    unless second.isBinding || second.kind == .keyword .thisWord do return .no
    match third.kind with
    | .mark .colon => return .yes
    | .mark .question =>
      advance g
      match (← current).kind with
      | .mark .colon | .mark .comma | .mark .assign | .mark .parenClose => return .yes
      | _ => return .no
    | .mark .comma | .mark .assign | .mark .parenClose => return .perhaps
    | _ => return .no

/-- The guess after an opening angle bracket. Where elements are expressions, type parameters must
show themselves by a bound, a comma or a default. -/
def guessAfterLess (g : Grammar) : Parser ArrowGuess := do
  let second ← current
  unless g.dialect.typed do return .no
  unless second.isBinding || second.kind == .keyword .constWord do return .no
  if g.dialect.elements then
    if second.kind == .keyword .constWord then advance g
    advance g
    match (← current).kind with
    | .keyword .extendsWord =>
      advance g
      match (← current).kind with
      | .mark .assign | .mark .greater | .mark .slash => return .no
      | _ => return .yes
    | .mark .comma | .mark .assign => return .yes
    | _ => return .no
  return .perhaps

def guessArrow (g : Grammar) : Parser ArrowGuess := fun s =>
  let p : Parser ArrowGuess := do
    if ← atKeyword .asyncWord then
      advance g
      if ← atBreak then return .no
    match (← current).kind with
    | .mark .parenOpen =>
      advance g
      guessAfterParen g
    | .mark .less =>
      advance g
      guessAfterLess g
    | _ => return .no
  match p s with
  | .ok guess _ => .ok guess s
  | .error _ _ => .ok .no s

/-- The part of an arrow function before its arrow. -/
structure ArrowHead where
  isAsync : Bool
  parts : List Node
  hasResult : Bool

def arrowHead (g : Grammar) : Parser ArrowHead := do
  let isAsync ← eatKeyword g .asyncWord
  let (parts, hasResult) ← inContext (fun c => { c with awaits := c.awaits || isAsync }) do
    let generics ← typeParameters g
    let inputs ← parameters g false
    let result ← resultType g
    return (generics ++ inputs ++ result, !result.isEmpty)
  return ⟨isAsync, parts, hasResult⟩

def arrowFrom (g : Grammar) (start : Nat) (head : ArrowHead) (resultTypes : Bool) :
    Parser Node := do
  arrowSign g
  let body ← arrowBody g head.isAsync resultTypes
  return .branch (.arrow head.isAsync) (← spanFrom start) (head.parts ++ [body])

/-- An arrow function if what stands in parentheses turns out to be its parameters. A result type
is given up when no colon follows where the surrounding conditional needs one. -/
def possibleArrow (g : Grammar) (resultTypes : Bool) : Parser (Option Node) := do
  let start ← position
  if (← get).notArrows.contains start then return none
  let found ← attempt do
    let head ← arrowHead g
    unless ← atMark .arrow do return none
    let n ← arrowFrom g start head resultTypes
    if !resultTypes && head.hasResult && !(← atMark .colon) then return none
    return some n
  if found.isNone then modify fun s => { s with notArrows := start :: s.notArrows }
  return found

def parenthesizedArrow (g : Grammar) (resultTypes : Bool) : Parser (Option Node) := do
  match (← current).kind with
  | .mark .parenOpen | .mark .less | .keyword .asyncWord =>
    match ← guessArrow g with
    | .no => return none
    | .yes =>
      let start ← position
      return some (← arrowFrom g start (← arrowHead g) true)
    | .perhaps => possibleArrow g resultTypes
  | _ => return none

def asyncNameArrow (g : Grammar) (resultTypes : Bool) : Parser (Option Node) := do
  unless ← atKeyword .asyncWord do return none
  let starts ← lookahead do
    advance g
    let t ← current
    unless t.isBinding && !t.afterBreak do return false
    nextIs g (·.kind == .mark .arrow)
  unless starts do return none
  let start ← position
  advance g
  let word ← inContext (fun c => { c with awaits := true }) (bindingName g)
  return some (← arrowFrom g start ⟨true, [word], false⟩ resultTypes)

end ModuleBundler.Script.Parser
