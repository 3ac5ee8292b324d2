import ModuleBundler.Script.Character

/-!
Escape sequences, and the values of the string literals that hold them. A string value is a
sequence of characters and of lone halves of surrogate pairs, which no character stands for.
-/
namespace ModuleBundler.Script

/-- A place in a text: what is left to read, and how many bytes lie before it. -/
structure Cursor where
  rest : List Char
  pos : Nat

namespace Cursor

def advance (c : Char) (rest : List Char) (at_ : Cursor) : Cursor := ⟨rest, at_.pos + c.utf8Size⟩

def takeWhile (p : Char → Bool) (taken : List Char) : List Char → Nat → List Char × Cursor
  | [], pos => (taken, ⟨[], pos⟩)
  | c :: rest, pos =>
    if p c then takeWhile p (c :: taken) rest (pos + c.utf8Size) else (taken, ⟨c :: rest, pos⟩)

end Cursor

/-- A character, or the code unit of a lone surrogate. -/
inductive TextUnit where
  | char (c : Char)
  | surrogate (unit : Nat)

inductive Escape where
  | value (units : List TextUnit)
  | malformed

def hexValue (digits : List Char) : Nat :=
  digits.foldl (fun n c => 16 * n + (hexDigit? c).getD 0) 0

def hexQuad? : List Char → Option (Nat × List Char)
  | a :: b :: c :: d :: rest =>
    if [a, b, c, d].all isHexDigit then some (hexValue [a, b, c, d], rest) else none
  | _ => none

def isHighSurrogate (n : Nat) : Bool := 0xd800 ≤ n && n ≤ 0xdbff

def isLowSurrogate (n : Nat) : Bool := 0xdc00 ≤ n && n ≤ 0xdfff

def TextUnit.ofNat (n : Nat) : TextUnit :=
  if isHighSurrogate n || isLowSurrogate n then .surrogate n else .char (Char.ofNat n)

def bracedCodePoint? (rest : List Char) (pos : Nat) : Option (Nat × Cursor) :=
  match Cursor.takeWhile isHexDigit [] rest pos with
  | ([], _) => none
  | (digits, ⟨'\x7d' :: rest, pos⟩) =>
    let n := hexValue digits.reverse
    if n ≤ 0x10ffff then some (n, ⟨rest, pos + 1⟩) else none
  | _ => none

def codePoint? (rest : List Char) (pos : Nat) : Option (Nat × Cursor) :=
  match rest with
  | '\x7b' :: rest => bracedCodePoint? rest (pos + 1)
  | _ => (hexQuad? rest).map fun (n, rest) => (n, ⟨rest, pos + 4⟩)

/-- What stands after `\u` in a string. A high half directly followed by the escape of a low half
is one character. -/
def unicodeEscape (rest : List Char) (pos : Nat) : Escape × Cursor :=
  match codePoint? rest pos with
  | none => (.malformed, ⟨rest, pos⟩)
  | some (n, next) =>
    let single := (Escape.value [.ofNat n], next)
    if isHighSurrogate n && rest.head? != some '\x7b' then
      match next.rest with
      | '\\' :: 'u' :: more =>
        match hexQuad? more with
        | some (low, more) =>
          if isLowSurrogate low then
            let joined := 0x10000 + (n - 0xd800) * 0x400 + (low - 0xdc00)
            (.value [.ofNat joined], ⟨more, next.pos + 6⟩)
          else single
        | none => single
      | _ => single
    else single

/-- The octal digits of an old-style escape: up to three, of value at most 255. -/
def octalEscape (first : Char) (rest : List Char) (pos : Nat) : Escape × Cursor :=
  let digit (c : Char) := c.toNat - 48
  let value (n : Nat) (rest : List Char) (pos : Nat) : Escape × Cursor :=
    (.value [.ofNat n], ⟨rest, pos⟩)
  match rest with
  | c :: rest₁ =>
    if isOctalDigit c then
      let two := digit first * 8 + digit c
      match rest₁ with
      | d :: rest₂ =>
        if isOctalDigit d && first ≤ '3' then value (two * 8 + digit d) rest₂ (pos + 3)
        else value two rest₁ (pos + 2)
      | [] => value two rest₁ (pos + 2)
    else value (digit first) rest (pos + 1)
  | [] => value (digit first) rest (pos + 1)

def readEscape (inTemplate : Bool) (c : Char) (rest : List Char) (pos : Nat) : Escape × Cursor :=
  let after : Cursor := ⟨rest, pos + c.utf8Size⟩
  let plain (d : Char) : Escape × Cursor := (.value [.char d], after)
  match c with
  | 'n' => plain '\n'
  | 't' => plain '\t'
  | 'r' => plain '\r'
  | 'b' => plain '\x08'
  | 'f' => plain '\x0c'
  | 'v' => plain '\x0b'
  | '\r' =>
    match rest with
    | '\n' :: rest => (.value [], ⟨rest, pos + 2⟩)
    | _ => (.value [], after)
  | 'x' =>
    match rest with
    | a :: b :: more =>
      if isHexDigit a && isHexDigit b then
        (.value [.ofNat (hexValue [a, b])], ⟨more, pos + 3⟩)
      else (.malformed, after)
    | _ => (.malformed, after)
  | 'u' => unicodeEscape rest (pos + 1)
  | _ =>
    if isLineBreak c then (.value [], after)
    else if c.isDigit then
      if c == '0' && !(rest.head?.any Char.isDigit) then plain '\x00'
      else if inTemplate then (.malformed, after)
      else if isOctalDigit c then octalEscape c rest pos
      else plain c
    else plain c

def quadDigits (n : Nat) : List Char :=
  [n / 0x1000, n / 0x100 % 16, n / 16 % 16, n % 16].map Nat.digitChar

/-- The characters that stand for a value. In a value with lone surrogates each of them, and each
replacement character, is written as the replacement character and four digits. -/
def spellUnits (units : List TextUnit) : List Char × Bool :=
  let lone := units.any fun u => match u with | .surrogate _ => true | .char _ => false
  let spell : TextUnit → List Char
    | .surrogate n => '\ufffd' :: quadDigits n
    | .char c => if lone && c == '\ufffd' then c :: quadDigits 0xfffd else [c]
  (units.flatMap spell, lone)

end ModuleBundler.Script
