import ModuleBundler.Script.Keyword
import ModuleBundler.Script.Span

/-!
The words of a source text. A token keeps the text from its first character on, so that a place
of the grammar that reads the same characters differently can start over from there.
-/
namespace ModuleBundler.Script

/-- The punctuators. Compound assignments that take a simple target count as one mark. -/
inductive Mark where
  | parenOpen | parenClose | braceOpen | braceClose | bracketOpen | bracketClose
  | semicolon | comma | colon | dot | ellipsis | question | questionDot | arrow | atSign
  | assign | compoundAssign | slashAssign
  | plusPlus | minusMinus | plus | minus | star | starStar | slash | percent | bang | tilde
  | less | lessEqual | greater | greaterEqual | equal | notEqual | strictEqual | strictNotEqual
  | shiftLeft | shiftRight | shiftRightZero | ampersand | bar | caret | both | either | coalesce
deriving DecidableEq

/-- The pieces of a template literal: the whole of one without substitutions, and the text before
the first, between two, and after the last. -/
inductive TemplatePart where
  | whole | head | middle | tail
deriving DecidableEq

inductive TokenKind where
  | finish
  | name
  | keyword (k : Keyword)
  | mark (m : Mark)
  /-- The decoded characters, and whether some escape was half of a surrogate pair. -/
  | string (value : List Char) (lone : Bool)
  | number
  /-- A template piece and whether all its escapes are sound. -/
  | template (part : TemplatePart) (sound : Bool)
  | privateName
  | regexp
  | hashbang
  /-- The text between the tags of an element. -/
  | elementText
  | unknown
deriving DecidableEq

structure Token where
  kind : TokenKind
  span : Span
  /-- A line break lies between the previous token and this one. -/
  afterBreak : Bool
  escaped : Bool
  /-- The decoded characters of a name or keyword. -/
  text : List Char
  /-- The text from the first character of the token. -/
  here : List Char
  rest : List Char

namespace Token

def keyword? (t : Token) : Option Keyword :=
  match t.kind with
  | .keyword k => some k
  | _ => none

def isWord (t : Token) : Bool :=
  match t.kind with
  | .name | .keyword _ => true
  | _ => false

def isIdentifier (t : Token) : Bool :=
  match t.kind with
  | .name => true
  | .keyword k => !k.isReserved
  | _ => false

def isBinding (t : Token) : Bool :=
  match t.kind with
  | .name => true
  | .keyword k => k.isBinding
  | _ => false

def isString (t : Token) : Bool :=
  match t.kind with
  | .string .. => true
  | _ => false

def isLiteral (t : Token) : Bool :=
  match t.kind with
  | .string .. | .number | .regexp | .keyword .trueWord | .keyword .falseWord
  | .keyword .nullWord => true
  | _ => false

def isPropertyName (t : Token) : Bool :=
  match t.kind with
  | .name | .keyword _ | .string .. | .number | .privateName => true
  | _ => false

end Token

end ModuleBundler.Script
