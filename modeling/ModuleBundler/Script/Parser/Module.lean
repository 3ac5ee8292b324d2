import ModuleBundler.Script.Parser.Declaration

/-!
Imports and exports. Outside the typed variant no name may be exported twice.
-/
namespace ModuleBundler.Script.Parser

mutual

def boundNames : Node → List String
  | .leaf .binding _ text => [text]
  | .branch .default_ _ (n :: _) | .branch .annotated _ (n :: _)
  | .branch .declarator _ (n :: _) => boundNames n
  | .branch .patternProperty _ [n] | .branch .patternProperty _ [_, n] => boundNames n
  | .branch .arrayPattern _ parts | .branch .objectPattern _ parts | .branch .rest _ parts
  | .branch (.variableList _) _ parts => boundNamesOf parts
  | _ => []

def boundNamesOf : List Node → List String
  | [] => []
  | n :: more => boundNames n ++ boundNamesOf more

end

def declaredNames : Node → List String
  | .branch (.function ..) _ parts | .branch .class_ _ parts =>
    (parts.findSome? fun n => match n with
      | .leaf .binding _ text => some text
      | _ => none).toList
  | n => boundNames n

def recordExports (g : Grammar) (names : List String) : Parser Unit := do
  for name in names do
    if !g.dialect.typed && (← get).exported.contains name then complain (.duplicate "export")
    modify fun s => { s with exported := name :: s.exported }

def specifierTokens (g : Grammar) : Nat → List Token → Parser (List Token)
  | 0, _ => fail .unexpected
  | fuel + 1, taken => do
    let t ← current
    if t.isWord || t.isString then
      if let .string _ true := t.kind then complain .badEscape
      advanceName g
      specifierTokens g fuel (t :: taken)
    else return taken.reverse

def tokenText (t : Token) : String :=
  match t.kind with
  | .string value _ => String.ofList value
  | _ => wordText t

/-- The outer and the inner name of a specifier: `a`, `a as b`, and in the typed variant both
after the word `type`. -/
def specifierNames (g : Grammar) (tokens : List Token) : Parser (Token × Token) := do
  let isType (t : Token) : Bool := g.dialect.typed && t.kind == .keyword .typeWord
  let isAs (t : Token) : Bool := t.kind == .keyword .asWord
  match tokens with
  | [a] => return (a, a)
  | [mark, a] => if isType mark then return (a, a) else fail .unexpected
  | [a, mid, b] => if isAs mid then return (a, b) else fail .unexpected
  | [mark, a, mid, b] =>
    if isType mark && isAs mid then return (a, b) else fail .unexpected
  | _ => fail .unexpected

def specifierNode (outer inner : Token) : Node :=
  .branch .moduleSpecifier ⟨outer.span.start, inner.span.stop⟩
    [.leaf .word outer.span (tokenText outer), .leaf .binding inner.span (tokenText inner)]

def importSpecifier (g : Grammar) : Parser Node := do
  let (outer, inner) ← specifierNames g (← specifierTokens g 8 [])
  unless inner.isBinding do fail (.expected "a name")
  checkName inner (← get).context
  return specifierNode outer inner

def importAttributes (g : Grammar) : Parser (List Node) := do
  let t ← current
  unless t.kind == .keyword .withWord || (t.kind == .keyword .assertWord && !t.afterBreak) do
    return []
  advance g
  let entries ← enclosed g .braceOpen .braceClose do
    let start ← position
    let key ← if (← current).isString then stringLeaf g .text else anyWord g
    expect g .colon ":"
    let value ← stringLeaf g .text
    return .branch .attributes (← spanFrom start) [key, value]
  let keys := entries.filterMap fun n => match n with
    | .branch _ _ (.leaf _ _ text :: _) => some text
    | _ => none
  unless keys.eraseDups.length == keys.length do complain (.duplicate "attribute")
  return entries

def moduleSource (g : Grammar) : Parser (List Node) := do
  let source ← stringLeaf g .text
  return source :: (← importAttributes g)

def allImported (g : Grammar) : Parser Node := do
  advance g
  expectKeyword g .asWord "as"
  bindingName g

def namedImports (g : Grammar) : Parser (List Node) :=
  enclosed g .braceOpen .braceClose (importSpecifier g)

def importClause (g : Grammar) (first : List Node) : Parser (List Node) := do
  if first.isEmpty then
    if ← atMark .star then return [← allImported g]
    if ← atMark .braceOpen then return ← namedImports g
    return []
  if ← eat g .comma then
    if ← atMark .star then return first ++ [← allImported g]
    if ← atMark .braceOpen then return first ++ (← namedImports g)
    fail .unexpected
  return first

/-- A word in front of the imported names that says how they are imported: only as types, or in a
phase of their own. -/
def importMode (g : Grammar) (word : Option Token) : Parser Bool := do
  match word.bind Token.keyword? with
  | some .typeWord =>
    unless g.dialect.typed do return false
    let t ← current
    let names ← if t.kind == .keyword .fromWord then
        nextIs g fun n => n.kind == .keyword .fromWord || n.kind == .mark .assign
      else pure true
    return names && (t.isBinding || t.kind == .mark .star || t.kind == .mark .braceOpen)
  | some .deferWord => atMark .star
  | some .sourceWord =>
    let t ← current
    if t.kind == .keyword .fromWord then nextIs g (·.kind == .keyword .fromWord)
    else return t.isBinding
  | _ => return false

def importDeclaration (g : Grammar) (start : Nat) : Parser Node := do
  let t ← current
  let first ← if t.isBinding then pure [← bindingName g] else pure []
  let first ← if ← importMode g (if first.isEmpty then none else some t) then do
      if (← current).isBinding then pure [← bindingName g] else pure []
    else pure first
  match first with
  | [name] =>
    if ← pure g.dialect.typed <&&> atMark .assign then return ← importEquals g start name
  | _ => pure ()
  let names ← if first.isEmpty && (← current).isString then pure [] else do
    let names ← importClause g first
    expectKeyword g .fromWord "from"
    pure names
  let source ← moduleSource g
  endStatement g
  return .branch .import_ (← spanFrom start) (names ++ source)

/-- Names in braces, exported from here or from another module. Names of this module are neither
strings nor reserved. -/
def exportNames (g : Grammar) (start : Nat) : Parser Node := do
  expect g .braceOpen "an opening brace"
  let (pairs, specifiers) ← specifierList g.fuel [] []
  expect g .braceClose "a closing brace"
  let named ← eatKeyword g .fromWord
  let source ← if named && (← current).isLiteral then moduleSource g else pure []
  if source.isEmpty then
    for (outer, _) in pairs do
      if outer.isString then complain .unexpected
      else if outer.keyword?.any fun k => k.isReserved || k.isStrict then complain .unexpected
  recordExports g (pairs.map fun (_, inner) => tokenText inner)
  endStatement g
  return .branch .export_ (← spanFrom start) (specifiers ++ source)
where
  specifierList : Nat → List (Token × Token) → List Node →
      Parser (List (Token × Token) × List Node)
    | 0, _, _ => fail .unexpected
    | fuel + 1, pairs, nodes => do
      if ← atMark .braceClose then return (pairs.reverse, nodes.reverse)
      let (outer, inner) ← specifierNames g (← specifierTokens g 8 [])
      let node := Node.branch .moduleSpecifier ⟨outer.span.start, inner.span.stop⟩
        [.leaf .word outer.span (tokenText outer), .leaf .word inner.span (tokenText inner)]
      unless ← atMark .braceClose do expect g .comma "a comma"
      specifierList fuel ((outer, inner) :: pairs) (node :: nodes)

def exportAll (g : Grammar) (start : Nat) : Parser Node := do
  advance g
  let name ← if ← eatKeyword g .asWord then do
      let t ← current
      unless t.isWord || t.isString do fail (.expected "a name")
      advanceName g
      recordExports g [tokenText t]
      pure [.leaf .word t.span (tokenText t)]
    else pure []
  expectKeyword g .fromWord "from"
  let source ← moduleSource g
  endStatement g
  return .branch .export_ (← spanFrom start) (name ++ source)

def exportDefault (g : Grammar) (start : Nat) (marks : List Node) : Parser Node := do
  advance g
  let from_ ← position
  let marks := marks ++ (← decorators g)
  let abstracts ← if ← atKeyword .abstractWord then
      nextIs g fun t => t.kind == .keyword .classWord && !t.afterBreak
    else pure false
  let describes ← if ← pure g.dialect.typed <&&> atKeyword .interfaceWord then
      nextIs g fun t => t.isBinding && !t.afterBreak
    else pure false
  let n ← if g.dialect.typed && abstracts then do
      advance g
      classOf g from_ marks
    else if ← atKeyword .classWord then classOf g from_ marks
    else if describes then interfaceDeclaration g from_
    else if ← atFunction g then do
      let isAsync ← eatKeyword g .asyncWord
      function g .defaultExport from_ isAsync false
    else do
      let n ← g.assignment true
      endStatement g
      pure n
  unless describes do recordExports g ["default"]
  return .branch .export_ (← spanFrom start) [n]

def exportDeclaration (g : Grammar) (start : Nat) (marks : List Node) : Parser Node := do
  advance g
  let typed := g.dialect.typed
  let t ← current
  let plain : Parser Node := do
    let from_ ← position
    let more ← decorators g
    let n ← declaration g from_ (marks ++ more)
    recordExports g (declaredNames n)
    return .branch .export_ (← spanFrom start) [n]
  match t.kind with
  | .keyword .defaultWord => exportDefault g start marks
  | .mark .star => exportAll g start
  | .mark .braceOpen => exportNames g start
  | .keyword .typeWord =>
    if ← pure typed <&&> nextIs g (·.kind == .mark .braceOpen) then
      advance g
      exportNames g start
    else if ← pure typed <&&> nextIs g (·.kind == .mark .star) then
      advance g
      exportAll g start
    else plain
  | .mark .assign =>
    unless typed do fail .unexpected
    advance g
    let n ← g.assignment true
    endStatement g
    return .branch .exportEquals (← spanFrom start) [n]
  | .keyword .asWord =>
    unless typed do fail .unexpected
    advance g
    expectKeyword g .namespaceWord "namespace"
    let name ← anyWord g
    endStatement g
    return .branch .export_ (← spanFrom start) [name]
  | .keyword .importWord =>
    unless typed do fail .unexpected
    advance g
    if ← atKeyword .typeWord then
      if ← nextIs g fun n => n.isBinding && n.kind != .keyword .fromWord then advance g
    let name ← bindingName g
    let n ← importEquals g start name
    return .branch .export_ (← spanFrom start) [n]
  | _ => plain

end ModuleBundler.Script.Parser
