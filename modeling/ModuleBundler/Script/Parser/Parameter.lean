import ModuleBundler.Script.Parser.Grammar

/-!
Modifiers, decorators and the parameters of functions.
-/
namespace ModuleBundler.Script.Parser

def followsModifier (t : Token) : Bool :=
  match t.kind with
  | .mark .bracketOpen | .mark .braceOpen | .mark .star | .mark .ellipsis => true
  | _ => t.isPropertyName

def modifier? (g : Grammar) (seenStatic permitConst inClass : Bool) :
    Parser (Option Keyword) := do
  let sameLine (t : Token) : Bool := !t.afterBreak && followsModifier t
  match (← current).keyword? with
  | none => return none
  | some k =>
    let modifies ← match k with
      | .constWord =>
        if permitConst then nextIs g sameLine else nextIs g (·.kind == .keyword .enumWord)
      | .staticWord =>
        if seenStatic then pure false
        else nextIs g fun t => followsModifier t && !(inClass && t.kind == .mark .braceOpen)
      | _ => if k.isModifier then nextIs g sameLine else pure false
    if modifies then
      advance g
      return some k
    return none

/-- Modifiers, each noted when it is repeated. The modifiers that were read come last first. -/
def modifiersFrom (g : Grammar) (permitConst inClass : Bool) :
    Nat → List Keyword → Parser (List Keyword)
  | 0, _ => fail .unexpected
  | fuel + 1, taken => do
    match ← modifier? g (taken.contains .staticWord) permitConst inClass with
    | some k =>
      if taken.contains k then complain (.duplicate "modifier")
      modifiersFrom g permitConst inClass fuel (k :: taken)
    | none => return taken.reverse

def modifiers (g : Grammar) (permitConst inClass : Bool) : Parser (List Keyword) :=
  modifiersFrom g permitConst inClass g.fuel []

def allowOnly (allowed : Keyword → Bool) (taken : List Keyword) : Parser Unit := do
  unless taken.all allowed do complain (.misplaced "this modifier")

def decorators (g : Grammar) : Parser (List Node) :=
  many g.fuel (do
    let start ← position
    if ← eat g .atSign then
      let n ← inContext (fun c => { c with decorating := true }) g.leftHand
      return some (.branch .decorator (← spanFrom start) [n])
    return none) []

def annotation (g : Grammar) : Parser (List Node) := do
  if ← pure g.dialect.typed <&&> eat g .colon then return [← g.type]
  return []

def annotated (start : Nat) (n : Node) (types : List Node) : Parser Node := do
  if types.isEmpty then return n
  return .branch .annotated (← spanFrom start) (n :: types)

def typedPattern (g : Grammar) (mayBeOptional : Bool) : Parser Node := do
  let start ← position
  let n ← g.pattern
  if mayBeOptional && g.dialect.typed then discard (eat g .question)
  annotated start n (← annotation g)

def withDefault (g : Grammar) (start : Nat) (n : Node) : Parser Node := do
  if ← eat g .assign then
    let value ← allowingIn (g.assignment true)
    return .branch .default_ (← spanFrom start) [n, value]
  return n

def patternWithDefault (g : Grammar) : Parser Node := do
  let start ← position
  withDefault g start (← typedPattern g true)

def restElement (g : Grammar) : Parser Node := do
  let start ← position
  advance g
  let n ← g.pattern
  if g.dialect.typed && (← atMark .question) then
    complain .unexpected
    advance g
  let n ← annotated start n (← annotation g)
  if ← atMark .assign then complain .restNotLast
  let n ← withDefault g start n
  return .branch .rest (← spanFrom start) [n]

/-- One parameter with its decorators. Modifiers declare fields, in constructors of the typed
variant only. -/
def parameter (g : Grammar) (ofConstructor : Bool) : Parser Node := do
  let start ← position
  let marks ← decorators g
  let taken ← modifiers g false false
  allowOnly (fun k => g.dialect.typed && ofConstructor &&
    [.publicWord, .privateWord, .protectedWord, .readonlyWord, .overrideWord].contains k) taken
  let n ← patternWithDefault g
  if marks.isEmpty then return n
  return .branch .parameter (← spanFrom start) (marks ++ [n])

def restParameter (g : Grammar) : Parser Node := restElement g

/-- Parameters in parentheses. The typed variant may begin with the type of `this`. -/
def parameters (g : Grammar) (ofConstructor : Bool) : Parser (List Node) := do
  expect g .parenOpen "("
  let mut receiver : List Node := []
  if g.dialect.typed && (← atKeyword .thisWord) then
    let start ← position
    let word ← takeLeaf g .this
    receiver := [← annotated start word (← annotation g)]
    unless ← atMark .parenClose do expect g .comma "a comma"
  let rest ← allowingIn (delimitedWithRest g .parenClose (parameter g ofConstructor)
    (restParameter g) g.fuel true false [])
  expect g .parenClose ")"
  return receiver ++ rest

end ModuleBundler.Script.Parser
