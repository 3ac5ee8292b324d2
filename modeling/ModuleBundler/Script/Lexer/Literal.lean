import ModuleBundler.Script.Lexer.Escape

/-!
String literals, template pieces, regular expressions and names with escapes. Each reader takes
the text twice: once to read, and once as the bound on its number of steps, since every step
takes at least one character.
-/
namespace ModuleBundler.Script

/-- A string as far as its closing quote: its units last first, where it ends, whether it was
closed and whether all its escapes are sound. -/
structure StringRead where
  units : List TextUnit
  after : Cursor
  closed : Bool
  sound : Bool

def readString (quote : Char) : List Char → Cursor → List TextUnit → Bool → StringRead
  | [], at_, units, sound => ⟨units, at_, false, sound⟩
  | _ :: bound, at_, units, sound =>
    match at_.rest with
    | [] => ⟨units, at_, false, sound⟩
    | c :: rest =>
      let pos := at_.pos + c.utf8Size
      if c == quote then ⟨units, ⟨rest, pos⟩, true, sound⟩
      else if c == '\n' || c == '\r' then ⟨units, at_, false, sound⟩
      else if c == '\\' then
        match rest with
        | [] => ⟨units, ⟨[], pos⟩, false, sound⟩
        | d :: rest =>
          match readEscape false d rest pos with
          | (.value more, next) => readString quote bound next (more.reverse ++ units) sound
          | (.malformed, next) => readString quote bound next units false
      else readString quote bound ⟨rest, pos⟩ (.char c :: units) sound

inductive PieceEnd where
  | closed | substitution | unterminated
deriving DecidableEq

/-- A template piece: how and where it ends, and whether all its escapes are sound. -/
def readPiece : List Char → Cursor → Bool → PieceEnd × Cursor × Bool
  | [], at_, sound => (.unterminated, at_, sound)
  | _ :: bound, at_, sound =>
    match at_.rest with
    | [] => (.unterminated, at_, sound)
    | '\x60' :: rest => (.closed, ⟨rest, at_.pos + 1⟩, sound)
    | '$' :: '\x7b' :: rest => (.substitution, ⟨rest, at_.pos + 2⟩, sound)
    | '\\' :: d :: rest =>
      match readEscape true d rest (at_.pos + 1) with
      | (.value _, next) => readPiece bound next sound
      | (.malformed, next) => readPiece bound next false
    | c :: rest => readPiece bound ⟨rest, at_.pos + c.utf8Size⟩ sound

def regexpBody? (inClass escaped : Bool) : List Char → Nat → Option Cursor
  | [], _ => none
  | c :: rest, pos =>
    let pos := pos + c.utf8Size
    if isLineBreak c then none
    else if escaped then regexpBody? inClass false rest pos
    else if c == '/' && !inClass then some ⟨rest, pos⟩
    else if c == '[' then regexpBody? true false rest pos
    else if c == '\\' then regexpBody? inClass true rest pos
    else if c == ']' then regexpBody? false false rest pos
    else regexpBody? inClass false rest pos

def soundFlags (flags : List Char) : Bool :=
  flags.all (fun c => "dgimsuvy".toList.contains c) && flags.eraseDups.length == flags.length

/-- A name that may hold escapes: its characters last first, whether an escape occurred and whether
all were sound. The first character of a name obeys a stricter class than the others. -/
def readName : List Char → Cursor → List Char → Bool → Bool → List Char × Cursor × Bool × Bool
  | [], at_, taken, escaped, sound => (taken, at_, escaped, sound)
  | _ :: bound, at_, taken, escaped, sound =>
    match at_.rest with
    | '\\' :: 'u' :: more =>
      match codePoint? more (at_.pos + 2) with
      | some (n, next) =>
        let allowed := match TextUnit.ofNat n with
          | .char c => if taken.isEmpty then isNameStart c else isNamePart c
          | .surrogate _ => false
        readName bound next (Char.ofNat n :: taken) true (sound && allowed)
      | none => (taken, ⟨more, at_.pos + 2⟩, true, false)
    | '\\' :: rest => (taken, ⟨rest, at_.pos + 1⟩, true, false)
    | c :: rest =>
      if isNamePart c then readName bound ⟨rest, at_.pos + c.utf8Size⟩ (c :: taken) escaped sound
      else (taken, at_, escaped, sound)
    | [] => (taken, at_, escaped, sound)

end ModuleBundler.Script
