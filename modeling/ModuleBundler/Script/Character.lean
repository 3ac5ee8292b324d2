import ModuleBundler.Unicode.Name

/-!
The classes of characters that the source language tells apart.
-/
namespace ModuleBundler.Script

def isLineBreak (c : Char) : Bool :=
  c == '\n' || c == '\r' || c == '\u2028' || c == '\u2029'

/-- Blanks within a line: besides space and tab, the Unicode spaces, the next-line character, the
zero-width space and the byte order mark. -/
def isGap (c : Char) : Bool :=
  c == ' ' || c == '\t' || c == '\x0b' || c == '\x0c' || c == '\u00a0' || c == '\u0085' ||
    c == '\ufeff' || c == '\u1680' || ('\u2000' ≤ c && c ≤ '\u200b') || c == '\u202f' ||
    c == '\u205f' || c == '\u3000'

def isNameStart (c : Char) : Bool :=
  c.isAlpha || c == '$' || c == '_' || (c.toNat > 0x7f && Unicode.nameStart.contains c.toNat)

/-- After its first character a name may also hold digits, marks and the zero-width joiners. -/
def isNamePart (c : Char) : Bool :=
  c.isAlphanum || c == '$' || c == '_' ||
    (c.toNat > 0x7f &&
      (Unicode.nameContinue.contains c.toNat || c == '\u200c' || c == '\u200d'))

def hexDigit? (c : Char) : Option Nat :=
  if '0' ≤ c && c ≤ '9' then some (c.toNat - 48)
  else if 'a' ≤ c && c ≤ 'f' then some (c.toNat - 87)
  else if 'A' ≤ c && c ≤ 'F' then some (c.toNat - 55)
  else none

def isHexDigit (c : Char) : Bool := (hexDigit? c).isSome

def isOctalDigit (c : Char) : Bool := '0' ≤ c && c ≤ '7'

def isBinaryDigit (c : Char) : Bool := c == '0' || c == '1'

end ModuleBundler.Script
