import ModuleBundler.Script.Dialect
import ModuleBundler.Script.Fault
import ModuleBundler.Script.Lexer.Literal
import ModuleBundler.Script.Lexer.Number
import ModuleBundler.Script.Token

/-!
Reading one token. A malformed token is still a token: its fault is reported beside it, and the
text goes on after it.
-/
namespace ModuleBundler.Script

/-- A token and what is wrong with it. -/
structure Lexeme where
  token : Token
  fault : Option Cause

namespace Lexer

/-- Where the reader of blanks and comments stands. -/
inductive GapState where
  | between
  | line
  | blockOpen
  | block
  | blockClose

/-- The comment that starts with a character, if there is one. Only scripts have those that start
with `<!--` anywhere and with `-->` at the start of a line. -/
def commentAt? (isModule broken : Bool) (c : Char) (rest : List Char) : Option GapState :=
  match c, rest with
  | '/', '/' :: _ => some .line
  | '/', '*' :: _ => some .blockOpen
  | '<', '!' :: '-' :: '-' :: _ => if isModule then none else some .line
  | '-', '-' :: '>' :: _ => if !isModule && broken then some .line else none
  | _, _ => none

/-- The text after blanks and comments, whether a line break was passed, and whether a comment was
left open. -/
def skipGap (isModule : Bool) : GapState → Bool → List Char → Nat → Cursor × Bool × Bool
  | state, broken, [], pos =>
    (⟨[], pos⟩, broken, match state with | .between | .line => false | _ => true)
  | .between, broken, c :: rest, pos =>
    if isGap c then skipGap isModule .between broken rest (pos + c.utf8Size)
    else if isLineBreak c then skipGap isModule .between true rest (pos + c.utf8Size)
    else
      match commentAt? isModule broken c rest with
      | some state => skipGap isModule state broken rest (pos + 1)
      | none => (⟨c :: rest, pos⟩, broken, false)
  | .line, broken, c :: rest, pos =>
    if isLineBreak c then skipGap isModule .between true rest (pos + c.utf8Size)
    else skipGap isModule .line broken rest (pos + c.utf8Size)
  | .blockOpen, broken, _ :: rest, pos => skipGap isModule .block broken rest (pos + 1)
  | .block, broken, c :: rest, pos =>
    if c == '*' && rest.head? == some '/' then
      skipGap isModule .blockClose broken rest (pos + 1)
    else skipGap isModule .block (broken || isLineBreak c) rest (pos + c.utf8Size)
  | .blockClose, broken, _ :: rest, pos => skipGap isModule .between broken rest (pos + 1)

/-- The punctuator at the front of a text that starts with `c`, and how many characters follow
`c` in it. Marks that start with `>` are read one character at a time. -/
def mark? (c : Char) (rest : List Char) : Option (Mark × Nat) :=
  match c, rest with
  | '(', _ => some (.parenOpen, 0)
  | ')', _ => some (.parenClose, 0)
  | '\x7b', _ => some (.braceOpen, 0)
  | '\x7d', _ => some (.braceClose, 0)
  | '[', _ => some (.bracketOpen, 0)
  | ']', _ => some (.bracketClose, 0)
  | ';', _ => some (.semicolon, 0)
  | ',', _ => some (.comma, 0)
  | ':', _ => some (.colon, 0)
  | '~', _ => some (.tilde, 0)
  | '@', _ => some (.atSign, 0)
  | '>', _ => some (.greater, 0)
  | '.', '.' :: '.' :: _ => some (.ellipsis, 2)
  | '.', _ => some (.dot, 0)
  | '?', '?' :: '=' :: _ => some (.compoundAssign, 2)
  | '?', '?' :: _ => some (.coalesce, 1)
  | '?', '.' :: d :: _ => if d.isDigit then some (.question, 0) else some (.questionDot, 1)
  | '?', '.' :: _ => some (.questionDot, 1)
  | '?', _ => some (.question, 0)
  | '=', '=' :: '=' :: _ => some (.strictEqual, 2)
  | '=', '=' :: _ => some (.equal, 1)
  | '=', '>' :: _ => some (.arrow, 1)
  | '=', _ => some (.assign, 0)
  | '!', '=' :: '=' :: _ => some (.strictNotEqual, 2)
  | '!', '=' :: _ => some (.notEqual, 1)
  | '!', _ => some (.bang, 0)
  | '+', '+' :: _ => some (.plusPlus, 1)
  | '+', '=' :: _ => some (.compoundAssign, 1)
  | '+', _ => some (.plus, 0)
  | '-', '-' :: _ => some (.minusMinus, 1)
  | '-', '=' :: _ => some (.compoundAssign, 1)
  | '-', _ => some (.minus, 0)
  | '*', '*' :: '=' :: _ => some (.compoundAssign, 2)
  | '*', '*' :: _ => some (.starStar, 1)
  | '*', '=' :: _ => some (.compoundAssign, 1)
  | '*', _ => some (.star, 0)
  | '/', '=' :: _ => some (.slashAssign, 1)
  | '/', _ => some (.slash, 0)
  | '%', '=' :: _ => some (.compoundAssign, 1)
  | '%', _ => some (.percent, 0)
  | '<', '<' :: '=' :: _ => some (.compoundAssign, 2)
  | '<', '<' :: _ => some (.shiftLeft, 1)
  | '<', '=' :: _ => some (.lessEqual, 1)
  | '<', _ => some (.less, 0)
  | '&', '&' :: '=' :: _ => some (.compoundAssign, 2)
  | '&', '&' :: _ => some (.both, 1)
  | '&', '=' :: _ => some (.compoundAssign, 1)
  | '&', _ => some (.ampersand, 0)
  | '|', '|' :: '=' :: _ => some (.compoundAssign, 2)
  | '|', '|' :: _ => some (.either, 1)
  | '|', '=' :: _ => some (.compoundAssign, 1)
  | '|', _ => some (.bar, 0)
  | '^', '=' :: _ => some (.compoundAssign, 1)
  | '^', _ => some (.caret, 0)
  | _, _ => none

def token (kind : TokenKind) (broken : Bool) (from_ until_ : Cursor) : Token :=
  ⟨kind, ⟨from_.pos, until_.pos⟩, broken, false, [], from_.rest, until_.rest⟩

def sound (t : Token) : Lexeme := ⟨t, none⟩

def checked (t : Token) (ok : Bool) (cause : Cause) : Lexeme :=
  ⟨t, if ok then none else some cause⟩

def name (broken : Bool) (at_ : Cursor) : Lexeme :=
  let (taken, after, escaped, ok) := readName at_.rest at_ [] false true
  let text := taken.reverse
  let kind := match Keyword.ofChars? text with
    | some k => TokenKind.keyword k
    | none => .name
  checked { token kind broken at_ after with escaped, text } (ok && !text.isEmpty) .badEscape

def privateName (broken : Bool) (at_ : Cursor) (rest : List Char) : Lexeme :=
  let start : Cursor := ⟨rest, at_.pos + 1⟩
  let begins := match rest with
    | c :: _ => isNameStart c || c == '\\'
    | [] => false
  if begins then
    let (taken, after, escaped, ok) := readName rest start [] false true
    let t := { token .privateName broken at_ after with escaped, text := taken.reverse }
    checked t (ok && !taken.isEmpty) .badEscape
  else ⟨token .unknown broken at_ start, some .unknownCharacter⟩

def string (broken : Bool) (at_ : Cursor) (quote : Char) (rest : List Char) : Lexeme :=
  let read := readString quote (quote :: rest) ⟨rest, at_.pos + 1⟩ [] true
  let (value, lone) := spellUnits read.units.reverse
  let t := token (.string value lone) broken at_ read.after
  if read.closed then checked t read.sound .badEscape
  else ⟨t, some (.unterminated "string")⟩

def template (opening broken : Bool) (at_ : Cursor) (rest : List Char) : Lexeme :=
  let (ending, after, ok) := readPiece at_.rest ⟨rest, at_.pos + 1⟩ true
  let part : TemplatePart := match ending, opening with
    | .substitution, true => .head
    | .substitution, false => .middle
    | _, true => .whole
    | _, false => .tail
  checked (token (.template part ok) broken at_ after) (ending != .unterminated)
    (.unterminated "template")

def regexp (slash : Token) : Lexeme :=
  let at_ : Cursor := ⟨slash.here, slash.span.start⟩
  match regexpBody? false false (slash.here.drop 1) (slash.span.start + 1) with
  | none => ⟨token .regexp slash.afterBreak at_ ⟨[], at_.pos + byteLength at_.rest⟩,
      some (.unterminated "regular expression")⟩
  | some body =>
    let isFlag (c : Char) := c.isAlphanum || c == '$' || c == '_'
    let (flags, after) := Cursor.takeWhile isFlag [] body.rest body.pos
    checked (token .regexp slash.afterBreak at_ after) (soundFlags flags) .badFlags

def tokenAt (broken : Bool) (at_ : Cursor) : Lexeme :=
  match at_.rest with
  | [] => sound (token .finish broken at_ at_)
  | c :: rest =>
    if isNameStart c || c == '\\' then name broken at_
    else if c == '"' || c == '\x27' then string broken at_ c rest
    else if c == '\x60' then template true broken at_ rest
    else if c == '#' then privateName broken at_ rest
    else if c.isDigit || (c == '.' && rest.head?.any Char.isDigit) then
      let (after, ok) := Number.read c rest (at_.pos + 1)
      checked (token .number broken at_ after) ok .badNumber
    else
      match mark? c rest with
      | some (m, more) =>
        sound (token (.mark m) broken at_ ⟨rest.drop more, at_.pos + 1 + more⟩)
      | none =>
        ⟨token .unknown broken at_ ⟨rest, at_.pos + c.utf8Size⟩, some .unknownCharacter⟩

def next (isModule atLineStart : Bool) (at_ : Cursor) : Lexeme :=
  let (start, broken, opened) := skipGap isModule .between atLineStart at_.rest at_.pos
  let lexeme := tokenAt broken start
  if opened then { lexeme with fault := some (.unterminated "comment") } else lexeme

/-- The first token of a text. A text may begin with a line that addresses the system's loader. -/
def first (isModule : Bool) (text : List Char) : Lexeme :=
  match text with
  | '#' :: '!' :: rest =>
    let (_, after) := Cursor.takeWhile (fun c => !isLineBreak c) [] rest 2
    sound (token .hashbang true ⟨text, 0⟩ after)
  | _ => next isModule true ⟨text, 0⟩

def growGreater (t : Token) : Token :=
  let grown (m : Mark) (n : Nat) : Token :=
    { t with kind := .mark m, span := ⟨t.span.start, t.span.start + n⟩, rest := t.here.drop n }
  match t.here with
  | '>' :: '>' :: '>' :: '=' :: _ => grown .compoundAssign 4
  | '>' :: '>' :: '>' :: _ => grown .shiftRightZero 3
  | '>' :: '>' :: '=' :: _ => grown .compoundAssign 3
  | '>' :: '>' :: _ => grown .shiftRight 2
  | '>' :: '=' :: _ => grown .greaterEqual 2
  | _ => t

def firstCharacter (t : Token) (m : Mark) : Token :=
  { t with
    kind := .mark m, span := ⟨t.span.start, t.span.start + 1⟩, rest := t.here.drop 1 }

/-- What follows a tag: text as far as the next tag or substitution, or the sign that starts one.
The signs that close them must not stand in text. -/
def elementChild (at_ : Cursor) : Lexeme :=
  match at_.rest with
  | [] => sound (token .finish false at_ at_)
  | '<' :: rest => sound (token (.mark .less) false at_ ⟨rest, at_.pos + 1⟩)
  | '\x7b' :: rest => sound (token (.mark .braceOpen) false at_ ⟨rest, at_.pos + 1⟩)
  | rest =>
    let isText (c : Char) := c != '<' && c != '\x7b' && c != '>' && c != '\x7d'
    let (_, after) := Cursor.takeWhile isText [] rest at_.pos
    let ended := match after.rest with
      | '>' :: _ | '\x7d' :: _ => false
      | _ => true
    checked (token .elementText false at_ after) ended .unexpected

/-- The value of an attribute: a string in quotes runs to the next same quote, without escapes. -/
def attributeValue (isModule : Bool) (at_ : Cursor) : Lexeme :=
  let (start, broken, opened) := skipGap isModule .between false at_.rest at_.pos
  match start.rest with
  | c :: rest =>
    if (c == '"' || c == '\x27') && !opened then
      let (taken, after) := Cursor.takeWhile (· != c) [] rest (start.pos + 1)
      match after.rest with
      | _ :: rest =>
        sound (token (.string taken.reverse false) broken start ⟨rest, after.pos + 1⟩)
      | [] => ⟨token (.string taken.reverse false) broken start after,
          some (.unterminated "string")⟩
    else next isModule false at_
  | [] => next isModule false at_

def elementName (t : Token) : Token :=
  let isPart (c : Char) := isNamePart c || c == '-'
  let (more, after) := Cursor.takeWhile isPart [] t.rest t.span.stop
  { t with
    kind := if more.isEmpty then t.kind else .name
    text := t.text ++ more.reverse, span := ⟨t.span.start, after.pos⟩, rest := after.rest }

end Lexer

end ModuleBundler.Script
