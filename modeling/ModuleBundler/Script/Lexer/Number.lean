import ModuleBundler.Script.Lexer.Escape

/-!
Numeric literals. An underscore must stand between two digits, and no name may start right after
a number.
-/
namespace ModuleBundler.Script.Number

/-- Digits and separators that continue a run of digits, and whether the separators are sound. -/
def digitsTail (isDigit : Char → Bool) : List Char → Nat → Cursor × Bool
  | [], pos => (⟨[], pos⟩, true)
  | c :: rest, pos =>
    if isDigit c then digitsTail isDigit rest (pos + 1)
    else if c == '_' then
      if rest.head?.any isDigit then digitsTail isDigit rest (pos + 1) else (⟨rest, pos + 1⟩, false)
    else (⟨c :: rest, pos⟩, true)

def digits (isDigit : Char → Bool) (rest : List Char) (pos : Nat) : Cursor × Bool :=
  if rest.head?.any isDigit then digitsTail isDigit rest pos else (⟨rest, pos⟩, false)

def exponent (at_ : Cursor) : Cursor × Bool :=
  match at_.rest with
  | e :: rest =>
    if e == 'e' || e == 'E' then
      match rest with
      | s :: more =>
        if s == '+' || s == '-' then digits Char.isDigit more (at_.pos + 2)
        else digits Char.isDigit rest (at_.pos + 1)
      | [] => (⟨[], at_.pos + 1⟩, false)
    else (at_, true)
  | [] => (at_, true)

def fraction (rest : List Char) (pos : Nat) : Cursor × Bool :=
  let part := if rest.head?.any Char.isDigit then digitsTail Char.isDigit rest pos
    else (⟨rest, pos⟩, true)
  if part.2 then exponent part.1 else part

def bigMark (at_ : Cursor) : Cursor × Bool :=
  match at_.rest with
  | 'n' :: rest => (⟨rest, at_.pos + 1⟩, true)
  | _ => (at_, true)

def afterWhole (at_ : Cursor) : Cursor × Bool :=
  match at_.rest with
  | '.' :: rest => fraction rest (at_.pos + 1)
  | 'n' :: rest => (⟨rest, at_.pos + 1⟩, true)
  | _ => exponent at_

def based (isDigit : Char → Bool) (rest : List Char) (pos : Nat) : Cursor × Bool :=
  let part := digits isDigit rest pos
  if part.2 then bigMark part.1 else part

/-- A zero followed by digits is octal unless it holds an eight or a nine. -/
def leadingZero (rest : List Char) (pos : Nat) : Cursor × Bool :=
  let (taken, after) := Cursor.takeWhile Char.isDigit [] rest pos
  if taken.all isOctalDigit then (after, true)
  else
    match after.rest with
    | '.' :: rest => fraction rest (after.pos + 1)
    | _ => exponent after

/-- The number whose first character is `c`: a digit, or a point before a digit. -/
def readUnended (c : Char) (rest : List Char) (pos : Nat) : Cursor × Bool :=
  if c == '.' then
    let part := digits Char.isDigit rest pos
    if part.2 then exponent part.1 else part
  else if c == '0' then
    match rest with
    | 'x' :: rest | 'X' :: rest => based isHexDigit rest (pos + 1)
    | 'o' :: rest | 'O' :: rest => based isOctalDigit rest (pos + 1)
    | 'b' :: rest | 'B' :: rest => based isBinaryDigit rest (pos + 1)
    | d :: _ => if d.isDigit then leadingZero rest pos else afterWhole ⟨rest, pos⟩
    | [] => (⟨[], pos⟩, true)
  else
    let part := digitsTail Char.isDigit rest pos
    if part.2 then afterWhole part.1 else part

/-- The end of the number and whether it is well formed; `pos` is the byte after `c`. -/
def read (c : Char) (rest : List Char) (pos : Nat) : Cursor × Bool :=
  let (after, sound) := readUnended c rest pos
  (after, sound && !(after.rest.head?.any fun d => isNameStart d || d.isDigit))

end ModuleBundler.Script.Number
