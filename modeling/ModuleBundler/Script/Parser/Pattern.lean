import ModuleBundler.Script.Parser.Parameter

/-!
Patterns that declare names, and expressions read over as targets of an assignment.
-/
namespace ModuleBundler.Script.Parser

/-- One property of an object pattern: a name that is declared, or a key and a pattern. -/
def patternProperty (g : Grammar) : Parser Node := do
  let start ← position
  let t ← current
  let (key, bracketed) ← propertyKey g
  if t.kind == .privateName then complain (.misplaced "a private name")
  if t.isBinding && !bracketed && !(← atMark .colon) then
    checkName t (← get).context
    let n ← withDefault g start (.leaf .binding t.span (wordText t))
    return .branch .patternProperty (← spanFrom start) [n]
  else
    expect g .colon ":"
    let n ← patternWithDefault g
    return .branch .patternProperty (← spanFrom start) [key, n]

def arrayPatternItem (g : Grammar) : Parser Node := do
  let t ← current
  if t.kind == .mark .comma then return .leaf .hole ⟨t.span.start, t.span.start⟩ ""
  patternWithDefault g

/-- What is declared: a name, or an object or array of patterns. The rest of an object is a
single name. -/
def patternOf (g : Grammar) : Parser Node := do
  let start ← position
  match (← current).kind with
  | .mark .braceOpen =>
    advance g
    let parts ← delimitedWithRest g .braceClose (patternProperty g) (restElement g)
      g.fuel true false []
    for n in parts do
      match n with
      | .branch .rest _ [.leaf .binding ..] => pure ()
      | .branch .rest .. => fail .badTarget
      | _ => pure ()
    expect g .braceClose "a closing brace"
    return .branch .objectPattern (← spanFrom start) parts
  | .mark .bracketOpen =>
    advance g
    let parts ← delimitedWithRest g .bracketClose (arrayPatternItem g) (restElement g)
      g.fuel true false []
    expect g .bracketClose "]"
    return .branch .arrayPattern (← spanFrom start) parts
  | _ => bindingName g

def withoutWrappers : Node → Node
  | .branch .asType _ (n :: _) | .branch .satisfies _ (n :: _) | .branch .nonNull _ (n :: _)
  | .branch .parenthesized _ (n :: _) => withoutWrappers n
  | .branch .typeAssertion _ [_, n] => withoutWrappers n
  | n => n

def isSimpleTarget : Node → Bool
  | .leaf .identifier .. | .branch .member .. | .branch .element ..
  | .branch .privateMember .. => true
  | _ => false

/-- Whether an expression can be assigned to as a whole. Parentheses are allowed, but not around
object and array literals. -/
def isAssignable : Node → Bool
  | .branch .parenthesized _ [n] => isAssignable n
  | .branch .asType _ (n :: _) | .branch .satisfies _ (n :: _) | .branch .nonNull _ (n :: _)
  | .branch .typeAssertion _ [_, n] => isSimpleTarget (withoutWrappers n)
  | n => isSimpleTarget n

/-- What goes wrong when an expression is read over as a target. -/
inductive TargetFault where
  | bad | rest

mutual

/-- Reads an expression over as the target of an assignment. `ended` tells where the literals with
a comma after their last element start. -/
def toTarget (ended : List Nat) : Node → Except TargetFault Node
  | .branch .array span items => do
    if ended.contains span.start && (items.getLast?.any (·.isBranch .spread)) then
      throw .rest
    return .branch .arrayPattern span (← itemsToTargets ended items)
  | .branch .object span items => do
    if ended.contains span.start && (items.getLast?.any (·.isBranch .spread)) then
      throw .rest
    return .branch .objectPattern span (← propertiesToTargets ended items)
  | n => if isAssignable n then .ok n else .error .bad

def toDefaultedTarget (ended : List Nat) : Node → Except TargetFault Node
  | .branch .assign span parts => .ok (.branch .default_ span parts)
  | .branch .compoundAssign .. => .error .bad
  | n => toTarget ended n

def itemsToTargets (ended : List Nat) : List Node → Except TargetFault (List Node)
  | [] => .ok []
  | [.branch .spread span [n]] => do return [.branch .rest span [← toTarget ended n]]
  | .branch .spread .. :: _ => .error .rest
  | .leaf .hole span text :: more => do
    return .leaf .hole span text :: (← itemsToTargets ended more)
  | n :: more => do
    let n ← toDefaultedTarget ended n
    return n :: (← itemsToTargets ended more)

/-- The properties of an object literal. The rest of an object goes into a name or a member. -/
def propertiesToTargets (ended : List Nat) : List Node → Except TargetFault (List Node)
  | [] => .ok []
  | [.branch .spread span [n]] =>
    if isAssignable n then .ok [.branch .rest span [n]] else .error .bad
  | .branch .spread .. :: _ => .error .rest
  | .branch .shorthand span parts :: more => do
    return .branch .patternProperty span parts :: (← propertiesToTargets ended more)
  | .branch .property span [key, value] :: more => do
    let value ← toDefaultedTarget ended value
    return .branch .patternProperty span [key, value] :: (← propertiesToTargets ended more)
  | _ :: _ => .error .bad

end

def target (n : Node) : Parser Node := do
  match toTarget (← get).trailingCommas n with
  | .ok n => return n
  | .error .bad => fail .badTarget
  | .error .rest => fail .restNotLast

def simpleTarget (n : Node) : Parser Node := do
  unless isAssignable n do fail .badTarget
  return n

mutual

/-- Object literals may give a shorthand property a default value only when they are read over as
targets; this finds one that was not. -/
def strayDefault? : Node → Option Span
  | .branch .shorthand span (_ :: _ :: _) => some span
  | .branch _ _ parts => strayDefaultIn? parts
  | .call _ callee types arguments =>
    ((strayDefault? callee).or (strayDefaultIn? types)).or (strayDefaultIn? arguments)
  | .leaf .. => none

def strayDefaultIn? : List Node → Option Span
  | [] => none
  | n :: more => (strayDefault? n).or (strayDefaultIn? more)

end

end ModuleBundler.Script.Parser
