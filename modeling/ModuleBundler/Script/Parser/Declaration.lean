import ModuleBundler.Script.Parser.Member

/-!
Declarations: variables, and what the typed variant declares besides functions and classes.
-/
namespace ModuleBundler.Script.Parser

def isComposite : Node → Bool
  | .branch .annotated _ (n :: _) => isComposite n
  | n => n.isBranch .objectPattern || n.isBranch .arrayPattern

/-- Notes a constant or a composite pattern without a value, which only ambient text may have. -/
def checkInitialized (word : VariableWord) (n : Node) : Parser Unit := do
  match n with
  | .branch .declarator _ [pattern] =>
    unless (← get).context.ambient do
      if isComposite pattern then complain (.missing "an initial value")
      else if word = .const then complain (.missing "an initial value")
  | _ => pure ()

def declarator (g : Grammar) (word : VariableWord) (complete : Bool) : Parser Node := do
  let start ← position
  let pattern ← g.pattern
  if g.dialect.typed then
    if pattern.isLeaf .binding && !(← atBreak) then discard (eat g .bang)
    discard (eat g .question)
  let pattern ← annotated start pattern (← annotation g)
  let value ← if ← eat g .assign then pure [← g.assignment true] else pure []
  let n := Node.branch .declarator (← spanFrom start) (pattern :: value)
  if word = .using then
    if isComposite pattern then complain .badTarget
    if complete && value.isEmpty then complain (.missing "an initial value")
  else if complete then checkInitialized word n
  return n

def variableList (g : Grammar) (start : Nat) (word : VariableWord) (complete : Bool) :
    Parser Node := do
  let first ← declarator g word complete
  let more ← many g.fuel (do
    if ← eat g .comma then return some (← declarator g word complete)
    return none) []
  if complete then endStatement g
  return .branch (.variableList word) (← spanFrom start) (first :: more)

def interfaceDeclaration (g : Grammar) (start : Nat) : Parser Node := do
  advance g
  let name ← bindingName g
  let generics ← typeParameters g
  let bases ← if ← eatKeyword g .extendsWord then
      Prod.fst <$> delimited g .braceOpen (baseClass g)
    else pure []
  let members ← typeMembers g
  return .branch .interface (← spanFrom start) (name :: generics ++ bases ++ members)

def typeAlias (g : Grammar) (start : Nat) : Parser Node := do
  advance g
  let name ← bindingName g
  let generics ← typeParameters g
  expect g .assign "="
  let builtIn ← atKeyword .intrinsicWord
  let type ← if builtIn && !(← nextIs g (·.kind == .mark .dot)) then takeLeaf g .typeWord
    else g.type
  endStatement g
  return .branch .typeAlias (← spanFrom start) (name :: generics ++ [type])

def enumMember (g : Grammar) : Parser Node := do
  let start ← position
  let t ← current
  let (key, bracketed) ← propertyKey g
  if bracketed then
    unless key.isLeaf .string || key.isBranch .template do fail .unexpected
  else unless t.isWord || t.isString do complain .unexpected
  let value ← if ← eat g .assign then pure [← g.assignment true] else pure []
  return .branch .enumMember (← spanFrom start) (key :: value)

def enumDeclaration (g : Grammar) (start : Nat) : Parser Node := do
  advance g
  let name ← bindingName g
  let members ← enclosed g .braceOpen .braceClose (enumMember g)
  return .branch .enum (← spanFrom start) (name :: members)

def block (g : Grammar) : Parser Node := do
  let start ← position
  expect g .braceOpen "an opening brace"
  let parts ← until_ g .braceClose (g.statement false)
  expect g .braceClose "a closing brace"
  return .branch .block (← spanFrom start) parts

/-- A namespace with a dotted name, a module named by a string, or the global scope. -/
def namespaceDeclaration (g : Grammar) (start : Nat) : Parser Node := do
  let global ← atKeyword .globalWord
  if global then
    let word ← takeLeaf g .binding
    return .branch .namespace_ (← spanFrom start) [word, ← block g]
  advance g
  if (← current).isString then
    let name ← stringLeaf g .text
    if ← atMark .braceOpen then
      return .branch .namespace_ (← spanFrom start) [name, ← block g]
    endStatement g
    return .branch .namespace_ (← spanFrom start) [name]
  let first ← bindingName g
  let more ← many g.fuel (do
    if ← eat g .dot then return some (← anyWord g)
    return none) []
  let body ← block g
  return .branch .namespace_ (← spanFrom start) (first :: more ++ [body])

def importEquals (g : Grammar) (start : Nat) (name : Node) : Parser Node := do
  expect g .assign "="
  let requires ← if ← atKeyword .requireWord then nextIs g (·.kind == .mark .parenOpen)
    else pure false
  let parts ← if requires then do
      advance g
      expect g .parenOpen "("
      let source ← stringLeaf g .text
      expect g .parenClose ")"
      pure [source]
    else entityName g
  endStatement g
  return .branch .importEquals (← spanFrom start) (name :: parts)

def declarationAfter (g : Grammar) (start : Nat) (taken : List Keyword) (marks : List Node) :
    Parser Node := do
  let k := (← current).keyword?
  unless marks.isEmpty || k == some .classWord do complain (.misplaced "a decorator")
  let inside (c : Context) : Context :=
    { c with ambient := c.ambient || taken.contains .declareWord }
  inContext inside do
    match k with
    | some .varWord =>
      advance g
      variableList g start .var true
    | some .letWord =>
      advance g
      variableList g start .let_ true
    | some .constWord =>
      advance g
      variableList g start .const true
    | some .functionWord => function g .declaration start (taken.contains .asyncWord) false
    | some .classWord => classOf g start marks
    | some k =>
      unless g.dialect.typed do fail .unexpected
      match k with
      | .interfaceWord => interfaceDeclaration g start
      | .typeWord => typeAlias g start
      | .enumWord => enumDeclaration g start
      | .namespaceWord | .moduleWord | .globalWord => namespaceDeclaration g start
      | .importWord =>
        advance g
        let name ← bindingName g
        importEquals g start name
      | _ => fail .unexpected
    | none => fail .unexpected

def declaration (g : Grammar) (start : Nat) (marks : List Node) : Parser Node := do
  let taken ← if g.dialect.typed then modifiers g false false
    else if ← atAsyncFunction g then do
      advance g
      pure [.asyncWord]
    else pure []
  declarationAfter g start taken marks

def declares (g : Grammar) : Nat → Parser Bool
  | 0 => return false
  | fuel + 1 => do
    match (← current).keyword? with
    | some .varWord | some .letWord | some .constWord | some .functionWord | some .classWord
    | some .enumWord => return true
    | some .interfaceWord | some .typeWord =>
      nextIs g fun t => t.isBinding && !t.afterBreak
    | some .moduleWord | some .namespaceWord =>
      nextIs g fun t => !t.afterBreak && (t.isBinding || t.isString)
    | some .globalWord =>
      nextIs g fun t => t.kind == .mark .braceOpen || t.kind == .name ||
        t.kind == .keyword .exportWord
    | some .importWord =>
      nextIs g fun t => t.isString || t.isWord || t.kind == .mark .star ||
        t.kind == .mark .braceOpen
    | some .exportWord =>
      advance g
      match (← current).kind with
      | .mark .assign | .mark .star | .mark .braceOpen | .keyword .defaultWord
      | .keyword .asWord | .mark .atSign => return true
      | _ => declares g fuel
    | some .staticWord =>
      advance g
      declares g fuel
    | some .abstractWord | some .accessorWord | some .asyncWord | some .declareWord
    | some .privateWord | some .protectedWord | some .publicWord | some .readonlyWord =>
      advance g
      if ← atBreak then return false
      declares g fuel
    | _ => return false

end ModuleBundler.Script.Parser
