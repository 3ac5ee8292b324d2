import ModuleBundler.Script.Parser.Parameter

/-!
Types of the typed variant.
-/
namespace ModuleBundler.Script.Parser

def form (start : Nat) (parts : List Node) : Parser Node := do
  return .branch .typeForm (← spanFrom start) parts

/-- The first character of a token that starts with `<`, as a token of its own. -/
def splitLess : Parser Unit := do
  let t ← current
  if t.kind == .mark .shiftLeft then
    reread ⟨Lexer.firstCharacter t .less, none⟩

def atLess : Parser Bool := do
  let t ← current
  return t.kind == .mark .less || t.kind == .mark .shiftLeft

def typeArguments (g : Grammar) : Parser (List Node) := do
  splitLess
  expect g .less "<"
  let (items, _) ← delimited g .greater g.type
  if items.isEmpty then complain (.missing "type arguments")
  expect g .greater ">"
  return items

/-- Type arguments where a type is being read: they must start on the same line. -/
def optionalTypeArguments (g : Grammar) : Parser (List Node) := do
  if !(← atBreak) && (← atLess) then typeArguments g else return []

def typeParameter (g : Grammar) : Parser Node := do
  let start ← position
  let taken ← many g.fuel (do
    let t ← current
    let plain ← nextIs g fun n => n.isIdentifier || n.kind == .keyword .constWord ||
      n.kind == .keyword .inWord
    match t.keyword? with
    | some .constWord | some .inWord => return some (← takeLeaf g .typeWord)
    | some .outWord | some .publicWord | some .privateWord | some .protectedWord
    | some .readonlyWord =>
      if plain then return some (← takeLeaf g .typeWord) else return none
    | _ => return none) []
  let word ← bindingName g
  let bound ← if ← eatKeyword g .extendsWord then pure [← g.type] else pure []
  let value ← if ← eat g .assign then pure [← g.type] else pure []
  return .branch .typeParameters (← spanFrom start) (taken ++ word :: bound ++ value)

def typeParameters (g : Grammar) : Parser (List Node) := do
  if g.dialect.typed && (← atMark .less) then
    advance g
    let (items, _) ← delimited g .greater (typeParameter g)
    if items.isEmpty then complain (.missing "type parameters")
    expect g .greater ">"
    return items
  return []

def typeOrPredicate (g : Grammar) : Parser Node := do
  let start ← position
  let t ← current
  let states ← if t.isIdentifier then
      nextIs g fun n => n.kind == .keyword .isWord && !n.afterBreak
    else pure false
  if states then
    let word ← takeLeaf g .typeWord
    advance g
    form start [word, ← g.type]
  else g.type

def resultType (g : Grammar) : Parser (List Node) := do
  if ← pure g.dialect.typed <&&> eat g .colon then return [← typeOrPredicate g]
  return []

def skipParameterStart (g : Grammar) : Parser Bool := do
  discard (modifiers g false false)
  let t ← current
  if t.isBinding || t.kind == .keyword .thisWord then
    advance g
    return true
  if t.kind == .mark .bracketOpen || t.kind == .mark .braceOpen then
    let before := (← get).faults.length
    discard g.pattern
    return (← get).faults.length == before
  return false

def startsParameters (g : Grammar) : Parser Bool :=
  lookahead do
    advance g
    let t ← current
    if t.kind == .mark .parenClose || t.kind == .mark .ellipsis then return true
    if ← skipParameterStart g then
      match (← current).kind with
      | .mark .colon | .mark .comma | .mark .question | .mark .assign => return true
      | .mark .parenClose =>
        advance g
        atMark .arrow
      | _ => return false
    else return false

def startsFunctionType (g : Grammar) : Parser Bool := do
  match (← current).kind with
  | .mark .less | .keyword .newWord => return true
  | .mark .parenOpen => startsParameters g
  | .keyword .abstractWord => nextIs g (·.kind == .keyword .newWord)
  | _ => return false

def functionType (g : Grammar) : Parser Node := do
  let start ← position
  discard (eatKeyword g .abstractWord)
  discard (eatKeyword g .newWord)
  let generics ← typeParameters g
  let inputs ← parameters g false
  expect g .arrow "=>"
  let result ← typeOrPredicate g
  form start (generics ++ inputs ++ [result])

def entityName (g : Grammar) : Parser (List Node) := do
  let first ← anyWord g
  let more ← many g.fuel (do
    if ← eat g .dot then
      if (← current).kind == .privateName then return some (← takeLeaf g .privateName)
      return some (← anyWord g)
    return none) []
  return first :: more

def endMember (g : Grammar) : Parser Unit := do
  unless ← eat g .comma do endStatement g

def startsIndexSignature (g : Grammar) : Parser Bool := do
  unless ← atMark .bracketOpen do return false
  lookahead do
    advance g
    let t ← current
    if t.kind == .mark .bracketClose || t.kind == .mark .ellipsis then return true
    if t.keyword?.any Keyword.isModifier then
      advance g
      if (← current).isIdentifier then return true
    else if !t.isIdentifier then return false
    else advance g
    match (← current).kind with
    | .mark .colon | .mark .comma => return true
    | .mark .question =>
      advance g
      let n ← current
      return n.kind == .mark .colon || n.kind == .mark .comma || n.kind == .mark .bracketClose
    | _ => return false

def indexSignature (g : Grammar) : Parser Node := do
  let start ← position
  advance g
  let (keys, _) ← delimited g .bracketClose (do
    let from_ ← position
    let word ← bindingName g
    expect g .colon ":"
    annotated from_ word [← g.type])
  expect g .bracketClose "]"
  unless ← atMark .colon do fail (.expected ":")
  let types ← annotation g
  endMember g
  return .branch .typeMember (← spanFrom start) (keys ++ types)

def signatureRest (g : Grammar) : Parser (List Node) := do
  let generics ← typeParameters g
  let inputs ← parameters g false
  let result ← resultType g
  return generics ++ inputs ++ result

def accessorWord (g : Grammar) (k : Keyword) : Parser Bool := do
  if ← atKeyword k then
    let names ← nextIs g fun t => followsModifier t && t.kind != .mark .star &&
      t.kind != .mark .braceOpen && t.kind != .mark .ellipsis
    if names then advance g
    return names
  return false

def typeMember (g : Grammar) : Parser Node := do
  let start ← position
  let t ← current
  let callable (t : Token) : Bool := t.kind == .mark .parenOpen || t.kind == .mark .less
  let constructs ← if t.kind == .keyword .newWord then nextIs g callable else pure false
  if callable t || constructs then
    if constructs then advance g
    let parts ← signatureRest g
    endMember g
    return .branch .typeMember (← spanFrom start) parts
  discard (modifiers g false false)
  if ← accessorWord g .getWord <||> accessorWord g .setWord then
    let (key, _) ← propertyKey g
    let parts ← signatureRest g
    endMember g
    return .branch .typeMember (← spanFrom start) (key :: parts)
  if ← startsIndexSignature g then return ← indexSignature g
  let (key, _) ← propertyKey g
  discard (eat g .question)
  let parts ← if callable (← current) then signatureRest g else annotation g
  endMember g
  return .branch .typeMember (← spanFrom start) (key :: parts)

def typeMembers (g : Grammar) : Parser (List Node) := do
  expect g .braceOpen "an opening brace"
  let members ← until_ g .braceClose (typeMember g)
  expect g .braceClose "a closing brace"
  return members

def startsMappedType (g : Grammar) : Parser Bool :=
  lookahead do
    advance g
    if ← eat g .plus <||> eat g .minus then return ← atKeyword .readonlyWord
    discard (eatKeyword g .readonlyWord)
    if ← eat g .bracketOpen then
      if (← current).isBinding then nextIs g (·.kind == .keyword .inWord) else return false
    else return false

def mappedType (g : Grammar) : Parser Node := do
  let start ← position
  advance g
  if ← eat g .plus <||> eat g .minus then expectKeyword g .readonlyWord "readonly"
  else discard (eatKeyword g .readonlyWord)
  expect g .bracketOpen "["
  let word ← bindingName g
  expectKeyword g .inWord "in"
  let source ← g.type
  let renamed ← if ← eatKeyword g .asWord then pure [← g.type] else pure []
  expect g .bracketClose "]"
  if ← eat g .plus <||> eat g .minus then expect g .question "?"
  else discard (eat g .question)
  let value ← annotation g
  unless ← eat g .comma do discard (eat g .semicolon)
  expect g .braceClose "a closing brace"
  form start (word :: source :: renamed ++ value)

def startsNamedElement (g : Grammar) : Parser Bool :=
  lookahead do
    discard (eat g .ellipsis)
    unless (← current).isWord do return false
    advance g
    if ← atMark .colon then return true
    if ← atMark .question then nextIs g (·.kind == .mark .colon) else return false

def tupleElement (g : Grammar) : Parser Node := do
  let start ← position
  if ← startsNamedElement g then
    discard (eat g .ellipsis)
    let word ← takeLeaf g .typeWord
    discard (eat g .question)
    expect g .colon ":"
    form start [word, ← g.type]
  else
    discard (eat g .ellipsis)
    let n ← g.type
    discard (eat g .question)
    form start [n]

def importType (g : Grammar) : Parser Node := do
  let start ← position
  discard (eatKeyword g .typeofWord)
  expectKeyword g .importWord "import"
  expect g .parenOpen "("
  let source ← g.type
  let options ← if ← eat g .comma then
      if ← atMark .parenClose then pure [] else pure [← allowingIn (g.assignment true)]
    else pure []
  discard (eat g .comma)
  expect g .parenClose ")"
  let path ← if ← eat g .dot then entityName g else pure []
  let args ← optionalTypeArguments g
  form start (source :: options ++ path ++ args)

def templateRest (g : Grammar) (tagged : Bool) (item : Parser Node) :
    Nat → List Node → Parser (List Node)
  | 0, _ => fail .unexpected
  | fuel + 1, taken => do
    let n ← item
    let t ← current
    unless t.kind == .mark .braceClose do fail (.expected "a closing brace")
    reread (Lexer.template false t.afterBreak ⟨t.here, t.span.start⟩ (t.here.drop 1))
    let t ← current
    match t.kind with
    | .template part sound =>
      unless sound || tagged do complain .badEscape
      advance g
      if part == .tail then return (n :: taken).reverse
      templateRest g tagged item fuel (n :: taken)
    | _ => fail (.expected "the rest of the template")

def templateOf (g : Grammar) (tagged : Bool) (item : Parser Node) : Parser (List Node) := do
  match (← current).kind with
  | .template part sound =>
    unless sound || tagged do complain .badEscape
    advance g
    if part == .head then templateRest g tagged item g.fuel [] else return []
  | _ => fail (.expected "a template")

def literalType (g : Grammar) : Parser Node := do
  let start ← position
  discard (eat g .minus)
  advance g
  form start []

def reference (g : Grammar) : Parser Node := do
  let start ← position
  let path ← entityName g
  let args ← optionalTypeArguments g
  form start (path ++ args)

def primaryType (g : Grammar) : Parser Node := do
  let start ← position
  let t ← current
  match t.kind with
  | .string .. | .number | .keyword .trueWord | .keyword .falseWord => literalType g
  | .mark .minus =>
    if ← nextIs g (·.kind == .number) then literalType g else fail .unexpected
  | .keyword .voidWord | .keyword .nullWord => takeLeaf g .typeWord
  | .keyword .thisWord =>
    let word ← takeLeaf g .typeWord
    if (← atKeyword .isWord) && !(← atBreak) then
      advance g
      form start [word, ← g.type]
    else return word
  | .keyword .typeofWord =>
    if ← nextIs g (·.kind == .keyword .importWord) then importType g
    else
      advance g
      let path ← entityName g
      let args ← optionalTypeArguments g
      form start (path ++ args)
  | .keyword .importWord => importType g
  | .keyword .assertsWord =>
    if ← nextIs g fun n => (n.isIdentifier || n.kind == .keyword .thisWord) && !n.afterBreak then
      advance g
      let word ← takeLeaf g .typeWord
      let types ← if ← eatKeyword g .isWord then pure [← g.type] else pure []
      form start (word :: types)
    else reference g
  | .mark .braceOpen =>
    if ← startsMappedType g then mappedType g else form start (← typeMembers g)
  | .mark .bracketOpen => form start (← enclosed g .bracketOpen .bracketClose (tupleElement g))
  | .mark .parenOpen =>
    advance g
    let n ← inContext (fun c => { c with plainTypes := false }) g.type
    expect g .parenClose ")"
    form start [n]
  | .template .. => form start (← templateOf g false g.type)
  | .keyword k =>
    if k.isTypeName && !(← nextIs g (·.kind == .mark .dot)) then takeLeaf g .typeWord
    else reference g
  | .name => reference g
  | _ => fail .unexpected

def startsType (t : Token) : Bool :=
  match t.kind with
  | .string .. | .number | .template .. | .mark .braceOpen | .mark .bracketOpen
  | .mark .parenOpen | .mark .less | .mark .bar | .mark .ampersand | .mark .minus
  | .mark .ellipsis | .mark .question | .mark .bang | .mark .star => true
  | .keyword k => !k.isReserved || [.newWord, .thisWord, .typeofWord, .nullWord, .trueWord,
      .falseWord, .voidWord, .functionWord, .importWord].contains k
  | .name => true
  | _ => false

def postfixTypes (g : Grammar) (start : Nat) : Nat → Node → Parser Node
  | 0, _ => fail .unexpected
  | fuel + 1, n => do
    if ← atBreak then return n
    match (← current).kind with
    | .mark .bang =>
      advance g
      postfixTypes g start fuel (← form start [n])
    | .mark .question =>
      if ← nextIs g startsType then return n
      advance g
      postfixTypes g start fuel (← form start [n])
    | .mark .bracketOpen =>
      advance g
      let index ← if ← atMark .bracketClose then pure [] else pure [← g.type]
      expect g .bracketClose "]"
      postfixTypes g start fuel (← form start (n :: index))
    | _ => return n

/-- The bound of an inferred type. Before a question mark it belongs to a conditional type,
unless that is excluded here. -/
def inferredBound (g : Grammar) : Parser (Option Node) := do
  if ← eatKeyword g .extendsWord then
    let n ← inContext (fun c => { c with plainTypes := true }) g.type
    if (← get).context.plainTypes || !(← atMark .question) then return some n
    return none
  return none

def typeOperandOf (g : Grammar) : Parser Node := do
  let start ← position
  match (← current).kind with
  | .keyword .keyofWord | .keyword .uniqueWord | .keyword .readonlyWord =>
    let word ← takeLeaf g .typeWord
    form start [word, ← g.typeOperand]
  | .keyword .inferWord =>
    advance g
    let word ← bindingName g
    let bound ← attempt (inferredBound g)
    form start (word :: bound.toList)
  | _ =>
    inContext (fun c => { c with plainTypes := false }) do
      postfixTypes g start g.fuel (← primaryType g)

def joinedTypes (g : Grammar) (m : Mark) (item : Parser Node) : Parser Node := do
  let start ← position
  let leads ← eat g m
  let first ← item
  let more ← many g.fuel (do
    if ← eat g m then return some (← item)
    return none) []
  if leads || !more.isEmpty then form start (first :: more) else return first

def unionType (g : Grammar) : Parser Node :=
  joinedTypes g .bar (joinedTypes g .ampersand g.typeOperand)

def typeOf (g : Grammar) : Parser Node := do
  if ← startsFunctionType g then return ← functionType g
  let start ← position
  let n ← unionType g
  let open_ := !(← get).context.plainTypes && !(← atBreak)
  if ← pure open_ <&&> eatKeyword g .extendsWord then
    let bound ← inContext (fun c => { c with plainTypes := true }) g.type
    expect g .question "?"
    let yes ← inContext (fun c => { c with plainTypes := false }) g.type
    expect g .colon ":"
    let no ← inContext (fun c => { c with plainTypes := false }) g.type
    form start [n, bound, yes, no]
  else return n

end ModuleBundler.Script.Parser
