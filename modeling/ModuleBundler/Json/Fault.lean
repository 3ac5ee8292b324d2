/-!
What can be wrong with a JSON text, and where: a line counted from one and the bytes before the
place on its line.
-/
namespace ModuleBundler.Json

inductive Cause where
  | endInList | endInObject | endInString | endInValue
  | expectedColon | expectedCommaOrBracket | expectedCommaOrBrace | expectedWord | expectedValue
  | badEscape | badNumber | numberOutOfRange | controlCharacter | keyNotString
  | loneSurrogate | unfinishedPair | trailingComma | trailingCharacters | tooDeep
  /-- A value of one type where another is needed. -/
  | wrongType (found expected : String)
  /-- A value of the right type that does not fit. -/
  | wrongValue (found expected : String)
  | wrongLength (length : Nat) (expected : String)
  | missingField (name : String)
  | duplicateField (name : String)
  /-- None of the forms that a value may take. -/
  | noVariant (type : String)
  /-- A path that is to be written and is no text. -/
  | pathNotText

namespace Cause

def message : Cause → String
  | endInList => "EOF while parsing a list"
  | endInObject => "EOF while parsing an object"
  | endInString => "EOF while parsing a string"
  | endInValue => "EOF while parsing a value"
  | expectedColon => "expected `:`"
  | expectedCommaOrBracket => "expected `,` or `]`"
  | expectedCommaOrBrace => "expected `,` or `\x7d`"
  | expectedWord => "expected ident"
  | expectedValue => "expected value"
  | badEscape => "invalid escape"
  | badNumber => "invalid number"
  | numberOutOfRange => "number out of range"
  | controlCharacter => "control character (\\u0000-\\u001F) found while parsing a string"
  | keyNotString => "key must be a string"
  | loneSurrogate => "lone leading surrogate in hex escape"
  | unfinishedPair => "unexpected end of hex escape"
  | trailingComma => "trailing comma"
  | trailingCharacters => "trailing characters"
  | tooDeep => "recursion limit exceeded"
  | wrongType found expected => "invalid type: " ++ found ++ ", expected " ++ expected
  | wrongValue found expected => "invalid value: " ++ found ++ ", expected " ++ expected
  | wrongLength length expected =>
    "invalid length " ++ toString length ++ ", expected " ++ expected
  | missingField name => "missing field `" ++ name ++ "`"
  | duplicateField name => "duplicate field `" ++ name ++ "`"
  | noVariant type => "data did not match any variant of untagged enum " ++ type
  | pathNotText => "path contains invalid UTF-8 characters"

end Cause

/-- A fault of a text, with its line and column. Line 0 is that of a fault which has no place. -/
structure Fault where
  cause : Cause
  line : Nat
  column : Nat

namespace Fault

def message (f : Fault) : String :=
  if f.line = 0 then f.cause.message
  else f.cause.message ++ " at line " ++ toString f.line ++ " column " ++ toString f.column

end Fault

/-- The line and column of the place before which `pos` bytes lie. `at_` bytes were passed on the
way, the current line started at `start`. -/
def lineColumn (pos : Nat) : List Char → (at_ line start : Nat) → Nat × Nat
  | [], _, line, start => (line, pos - start)
  | c :: rest, at_, line, start =>
    let next := at_ + c.utf8Size
    if next > pos then (line, pos - start)
    else if c == '\n' then lineColumn pos rest next (line + 1) next
    else lineColumn pos rest next line start

end ModuleBundler.Json
