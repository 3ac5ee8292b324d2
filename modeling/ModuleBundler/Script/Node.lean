import ModuleBundler.Script.Token

/-!
Syntax trees. Names, strings and other single words are leaves with their decoded text. A call
keeps its callee, type arguments and arguments apart, since those decide whether it names a
dependency. Every other construct is a branch of a kind, its parts in source order.
-/
namespace ModuleBundler.Script

inductive Leaf where
  | identifier
  | string
  | binding
  /-- A name that is only a key, a label or part of a type. -/
  | word
  /-- A string that is a key or names a module. -/
  | text
  | number | regexp | template | privateName | constant | this | super | metaProperty
  | hole | elementText | typeWord | empty
deriving DecidableEq

inductive VariableWord where
  | var | let_ | const | using
deriving DecidableEq

/-- An operation that has no kind of its own keeps the token of its operator, variables the word
that declares them. -/
inductive Branch where
  -- expressions
  | parenthesized | sequence | array | object | spread | property | shorthand | method
  | member | element | privateMember | chain | tagged | template | new_ | importCall
  | unary | update | power | binary (operator : TokenKind) | both | either | coalesce | privateIn
  | conditional | assign | compoundAssign | arrow (isAsync : Bool)
  | function (isAsync isGenerator : Bool) | class_ | yield_ | await_
  | asType | satisfies | nonNull | typeAssertion | instantiation
  -- patterns
  | arrayPattern | objectPattern | patternProperty | rest | default_ | annotated | parameter
  -- statements
  | block | expressionStatement | variableList (word : VariableWord) | declarator | if_ | for_
  | forIn | forOf | while_ | doWhile | break_ | continue_ | return_ | throw_ | try_ | catch_
  | switch_ | case_ | with_ | labeled | import_ | export_ | moduleSpecifier | importEquals
  | exportEquals | attributes | body | field | accessor | staticBlock | decorator | heritage
  -- types and the declarations of the typed variant
  | typeForm | typeMember | typeParameters | typeArguments | interface | typeAlias | enum
  | enumMember | namespace_
  -- elements
  | markup | markupAttribute | markupContainer | markupName
  | program
deriving DecidableEq

inductive Node where
  | leaf (kind : Leaf) (span : Span) (text : String)
  | call (span : Span) (callee : Node) (typeArguments arguments : List Node)
  | branch (kind : Branch) (span : Span) (parts : List Node)

namespace Node

def span : Node → Span
  | leaf _ s _ | call s .. | branch _ s _ => s

def isBranch (kind : Branch) : Node → Bool
  | branch k .. => k == kind
  | _ => false

def isLeaf (kind : Leaf) : Node → Bool
  | leaf k .. => k == kind
  | _ => false

mutual

/-- The tree of the same text behind a number of other bytes. -/
def moved (n : Nat) : Node → Node
  | leaf kind span text => leaf kind (span.moved n) text
  | call span f types arguments =>
    call (span.moved n) (moved n f) (movedAll n types) (movedAll n arguments)
  | branch kind span parts => branch kind (span.moved n) (movedAll n parts)

def movedAll (n : Nat) : List Node → List Node
  | [] => []
  | m :: more => moved n m :: movedAll n more

end

end Node

end ModuleBundler.Script
