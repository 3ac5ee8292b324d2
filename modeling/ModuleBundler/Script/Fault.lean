/-!
The reasons for which a text is not a source text of the language.
-/
namespace ModuleBundler.Script

inductive Cause where
  | unexpected
  | expected (what : String)
  | unknownCharacter
  | unterminated (what : String)
  | badEscape
  | badNumber
  | badFlags
  | escapedKeyword
  | missingSemicolon
  | lineBreak (after : String)
  | misplaced (what : String)
  | missing (what : String)
  | duplicate (what : String)
  | badTarget
  | restNotLast
  | mixedCoalescing
  | bareUnaryPower
  | tagMismatch

namespace Cause

def message : Cause → String
  | unexpected => "unexpected token"
  | expected what => "expected " ++ what
  | unknownCharacter => "unknown character"
  | unterminated what => "unterminated " ++ what
  | badEscape => "malformed escape sequence"
  | badNumber => "malformed number"
  | badFlags => "malformed regular expression flags"
  | escapedKeyword => "a keyword must not be written with escapes"
  | missingSemicolon => "expected a semicolon or a line break"
  | lineBreak after => "no line break may follow " ++ after
  | misplaced what => what ++ " is not allowed here"
  | missing what => "missing " ++ what
  | duplicate what => "duplicate " ++ what
  | badTarget => "this cannot be assigned to"
  | restNotLast => "a rest element comes last, without a comma"
  | mixedCoalescing => "parentheses are required between ?? and a logical operator"
  | bareUnaryPower => "parentheses are required around the left side of **"
  | tagMismatch => "the closing tag does not match the opening tag"

end Cause

/-- A reason and the byte at which it was noticed. -/
structure Fault where
  pos : Nat
  cause : Cause

def Fault.moved (n : Nat) (f : Fault) : Fault := { f with pos := n + f.pos }

def Fault.message (f : Fault) : String := f.cause.message ++ " at byte " ++ toString f.pos

end ModuleBundler.Script
