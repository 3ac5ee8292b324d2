import ModuleBundler.Script.Parser.Type

/-!
Elements such as `<a b="c">text</a>`, in the dialects that have them. The text between tags and
the values of attributes are made of other tokens than the rest of the language.
-/
namespace ModuleBundler.Script.Parser

def advanceToChild : Parser Unit := do
  accept (Lexer.elementChild (← afterToken))

/-- The mark that ends a tag or a substitution. What follows it is text inside an element. -/
def closeMarkup (g : Grammar) (m : Mark) (inside : Bool) : Parser Unit := do
  unless ← atMark m do fail (.expected "the end of a tag")
  if inside then advanceToChild else advance g

def markupWord (g : Grammar) : Parser Node := do
  let t ← current
  unless t.isWord do fail (.expected "a name")
  let t := Lexer.elementName t
  reread ⟨t, none⟩
  takeLeaf g .word

/-- The name of an element: a word, two words joined by a colon, or words joined by dots. -/
def markupName (g : Grammar) : Parser Node := do
  let start ← position
  let first ← markupWord g
  if ← eat g .colon then
    let second ← markupWord g
    return .branch .markupName (← spanFrom start) [first, .leaf .constant ⟨0, 0⟩ ":", second]
  let more ← many g.fuel (do
    if ← eat g .dot then return some (← markupWord g)
    return none) []
  return .branch .markupName (← spanFrom start) (first :: more)

def sameName (a b : Node) : Bool :=
  match a, b with
  | .branch _ _ xs, .branch _ _ ys => texts xs == texts ys
  | _, _ => false
where
  texts (ns : List Node) : List String :=
    ns.map fun n => match n with
      | .leaf _ _ text => text
      | _ => ""

def attributeValue (g : Grammar) : Parser Node := do
  let start ← position
  accept (Lexer.attributeValue g.dialect.isModule (← afterToken))
  match (← current).kind with
  | .string .. => stringLeaf g .text
  | .mark .braceOpen =>
    advance g
    if ← atMark .braceClose then complain (.missing "an attribute value")
    let parts ← if ← atMark .braceClose then pure []
      else pure [← allowingIn (expression g)]
    expect g .braceClose "a closing brace"
    return .branch .markupContainer (← spanFrom start) parts
  | .mark .less => g.markup false
  | _ => fail .unexpected

def markupAttribute (g : Grammar) : Parser Node := do
  let start ← position
  if ← eat g .braceOpen then
    expect g .ellipsis "..."
    let n ← allowingIn (expression g)
    expect g .braceClose "a closing brace"
    return .branch .spread (← spanFrom start) [n]
  let first ← markupWord g
  let second ← if ← eat g .colon then pure [← markupWord g] else pure []
  let value ← if ← atMark .assign then pure [← attributeValue g] else pure []
  return .branch .markupAttribute (← spanFrom start) (first :: second ++ value)

def childContainer (g : Grammar) : Parser Node := do
  let start ← position
  advance g
  if ← eat g .ellipsis then
    let n ← allowingIn (expression g)
    closeMarkup g .braceClose true
    return .branch .spread (← spanFrom start) [n]
  let parts ← if ← atMark .braceClose then pure [] else pure [← allowingIn (expression g)]
  closeMarkup g .braceClose true
  return .branch .markupContainer (← spanFrom start) parts

def children (g : Grammar) : Parser (List Node) :=
  many g.fuel (do
    let t ← current
    match t.kind with
    | .mark .less =>
      if ← nextIs g (·.kind == .mark .slash) then return none
      return some (← g.markup true)
    | .mark .braceOpen => return some (← childContainer g)
    | .elementText =>
      advanceToChild
      return some (.leaf .elementText t.span "")
    | _ => fail .unexpected) []

def markupOf (g : Grammar) (inside : Bool) : Parser Node := do
  let start ← position
  advance g
  if ← atMark .greater then
    advanceToChild
    let parts ← children g
    advance g
    expect g .slash "/"
    closeMarkup g .greater inside
    return .branch .markup (← spanFrom start) parts
  let name ← markupName g
  let types ← if g.dialect.typed && (← atLess) then typeArguments g else pure []
  let attributes ← many g.fuel (do
    match (← current).kind with
    | .mark .greater | .mark .slash | .mark .less | .finish => return none
    | _ => return some (← markupAttribute g)) []
  if ← eat g .slash then
    closeMarkup g .greater inside
    return .branch .markup (← spanFrom start) (name :: types ++ attributes)
  closeMarkup g .greater true
  let parts ← children g
  advance g
  expect g .slash "/"
  let closing ← markupName g
  unless sameName name closing do complain .tagMismatch
  closeMarkup g .greater inside
  return .branch .markup (← spanFrom start) (name :: types ++ attributes ++ parts ++ [closing])

end ModuleBundler.Script.Parser
