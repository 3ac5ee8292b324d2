import ModuleBundler.Json.Basic
import ModuleBundler.Json.Fault

/-!
Reading JSON. The reader goes through the text once; what is expected next decides how a value is
read, so that a value of the wrong type is found before a fault that stands behind it.
-/
namespace ModuleBundler.Json

/-- The rest of a text, and the bytes before it. -/
structure Place where
  rest : List Char
  pos : Nat

/-- A cause, with its place where that is settled. The others get the place that the innermost
enclosing value has come to. -/
structure Problem where
  cause : Cause
  pos : Option Nat

abbrev Reader := EStateM Problem Place

namespace Reader

def fail {α : Type} (cause : Cause) : Reader α := do
  throw ⟨cause, some (← get).pos⟩

def failNext {α : Type} (cause : Cause) : Reader α := do
  let s ← get
  throw ⟨cause, some (if s.rest.isEmpty then s.pos else s.pos + 1)⟩

def failIn {α : Type} (cause : Cause) : Reader α := do
  throw ⟨cause, some ((← get).pos + 1)⟩

def failUnplaced {α : Type} (cause : Cause) : Reader α := throw ⟨cause, none⟩

def placed {α : Type} (p : Reader α) : Reader α := fun s =>
  match p s with
  | .error ⟨cause, none⟩ s' => .error ⟨cause, some s'.pos⟩ s'
  | r => r

def peek? : Reader (Option Char) := return (← get).rest.head?

def next? : Reader (Option Char) := do
  match (← get).rest with
  | [] => return none
  | c :: rest =>
    modify fun s => ⟨rest, s.pos + c.utf8Size⟩
    return some c

def eat : Reader Unit := discard next?

def takeWhile (p : Char → Bool) : Reader (List Char) := do
  let s ← get
  let (taken, rest) := s.rest.span p
  set (⟨rest, s.pos + taken.foldl (fun n c => n + c.utf8Size) 0⟩ : Place)
  return taken

def peekValue? : Reader (Option Char) := do
  discard (takeWhile fun c => c == ' ' || c == '\n' || c == '\t' || c == '\r')
  peek?

def word : List Char → Reader Unit
  | [] => pure ()
  | c :: more => do
    match ← peek? with
    | none => fail .endInValue
    | some d =>
      unless d == c do failIn .expectedWord
      eat
      word more

def digitValue (c : Char) : Nat := c.toNat - 48

/-- The greatest integer of 64 bits. -/
def maxNatural : Nat := Nat.pow 2 64 - 1

/-- Adds digits to a number while it fits into 64 bits: the number, how many digits were added,
what follows, and whether a digit was left because it did not fit. -/
def accumulate (n : Nat) : List Char → Nat → Nat × Nat × List Char × Bool
  | [], count => (n, count, [], false)
  | c :: rest, count =>
    if c.isDigit then
      let more := n * 10 + digitValue c
      if more > maxNatural then (n, count, c :: rest, true)
      else accumulate more rest (count + 1)
    else (n, count, c :: rest, false)

def takeDigits (n : Nat) : Reader (Nat × Nat × Bool) := do
  let s ← get
  let (n, count, rest, full) := accumulate n s.rest 0
  set (⟨rest, s.pos + count⟩ : Place)
  return (n, count, full)

/-- `x * 10 ^ exponent`, each step rounded: a single product or quotient when the power is at most
the greatest there is, quotients by that power before it otherwise. -/
def scale (x : Decimal.Binary) (exponent : Int) : Nat → Option Decimal.Binary
  | 0 => some (.zero false)
  | fuel + 1 =>
    if exponent.natAbs ≤ 308 then do
      let power ← Decimal.Binary.ofNat? (Nat.pow 10 exponent.natAbs)
      if exponent ≥ 0 then x.mul? power else x.div? power
    else if x.isZero then some x
    else if exponent ≥ 0 then none
    else do
      let power ← Decimal.Binary.ofNat? (Nat.pow 10 308)
      scale (← x.div? power) (exponent + 308) fuel

def ofParts (negative : Bool) (digits : Nat) (exponent : Int) : Reader JsonNumber := do
  match (Decimal.Binary.ofNat? digits).bind fun x => scale x exponent 8 with
  | some x => return .float (if negative then x.neg else x)
  | none => fail .numberOutOfRange

/-- The exponents that count are those of 32 bits. -/
def maxExponent : Nat := Nat.pow 2 31 - 1

def exponentPart (negative : Bool) (digits : Nat) (exponent : Int) : Reader JsonNumber := do
  eat
  let down ← match ← peek? with
    | some '+' => do
      eat
      pure false
    | some '-' => do
      eat
      pure true
    | _ => pure false
  match ← peek? with
  | none => fail .endInValue
  | some c =>
    unless c.isDigit do failIn .badNumber
    eat
    let start ← get
    let more ← takeWhile Char.isDigit
    let all := (c :: more).foldl (fun n d => n * 10 + digitValue d) 0
    if all > maxExponent then
      if digits != 0 && !down then
        set (overflowPlace start (digitValue c))
        fail .numberOutOfRange
      return .float (.zero negative)
    let least : Int := -(Nat.pow 2 31 : Nat)
    let greatest : Int := maxExponent
    let sum := if down then exponent - all else exponent + all
    ofParts negative digits (max least (min greatest sum))
where
  /-- The place just after the digit with which the exponent stops fitting. -/
  overflowPlace (start : Place) (n : Nat) : Place :=
    go n start.rest start.pos
  go (n : Nat) : List Char → Nat → Place
    | [], pos => ⟨[], pos⟩
    | c :: rest, pos =>
      let more := n * 10 + digitValue c
      if more > maxExponent then ⟨rest, pos + 1⟩ else go more rest (pos + 1)

def afterDigits (negative : Bool) (digits : Nat) (exponent : Int) : Reader JsonNumber := do
  match ← peek? with
  | some 'e' | some 'E' => exponentPart negative digits exponent
  | _ => ofParts negative digits exponent

/-- The digits after a point. Those that no longer fit into 64 bits are passed over. -/
def fractionPart (negative : Bool) (digits : Nat) (exponent : Int) : Reader JsonNumber := do
  eat
  let (digits, count, full) ← takeDigits digits
  if full then
    discard (takeWhile Char.isDigit)
    afterDigits negative digits (exponent - count)
  else
    if count == 0 then
      match ← peek? with
      | some _ => failNext .badNumber
      | none => failNext .endInValue
    afterDigits negative digits (exponent - count)

def number (negative : Bool) : Reader JsonNumber := do
  match ← peek? with
  | none => fail .endInValue
  | some c =>
    unless c.isDigit do failIn .badNumber
    eat
    if c == '0' then
      if (← peek?).any Char.isDigit then failNext .badNumber
    let (digits, _, full) ← if c == '0' then pure (0, 0, false) else takeDigits (digitValue c)
    if full then
      let more ← takeWhile Char.isDigit
      match ← peek? with
      | some '.' => fractionPart negative digits more.length
      | _ => afterDigits negative digits more.length
    else
      match ← peek? with
      | some '.' => fractionPart negative digits 0
      | some 'e' | some 'E' => exponentPart negative digits 0
      | _ =>
        if !negative then return .natural digits
        if digits == 0 || digits > Nat.pow 2 63 then
          match Decimal.Binary.ofNat? digits with
          | some x => return .float x.neg
          | none => fail .numberOutOfRange
        return .negative digits

def hexDigit? (c : Char) : Option Nat :=
  if c.isDigit then some (c.toNat - 48)
  else if 'a' ≤ c && c ≤ 'f' then some (c.toNat - 87)
  else if 'A' ≤ c && c ≤ 'F' then some (c.toNat - 55)
  else none

def hexQuad : Reader Nat := do
  let s ← get
  let size (cs : List Char) : Nat := cs.foldl (fun n c => n + c.utf8Size) 0
  if size (s.rest.take 4) < 4 then
    set (⟨[], s.pos + size s.rest⟩ : Place)
    fail .endInString
  match s.rest with
  | a :: b :: c :: d :: rest =>
    match hexDigit? a, hexDigit? b, hexDigit? c, hexDigit? d with
    | some a, some b, some c, some d =>
      set (⟨rest, s.pos + 4⟩ : Place)
      return ((a * 16 + b) * 16 + c) * 16 + d
    | _, _, _, _ =>
      set (⟨[], s.pos + 4⟩ : Place)
      fail .badEscape
  | _ =>
    set (⟨[], s.pos + 4⟩ : Place)
    fail .badEscape

def pairMark (c : Char) : Reader Unit := do
  match ← peek? with
  | none => fail .endInString
  | some d => if d == c then eat else failIn .unfinishedPair

/-- The character after `\u`. Halves of surrogate pairs must come in pairs. -/
def unicodeEscape : Reader Char := do
  let high ← hexQuad
  if 0xdc00 ≤ high && high ≤ 0xdfff then fail .loneSurrogate
  if high < 0xd800 || high > 0xdbff then return Char.ofNat high
  pairMark '\\'
  pairMark 'u'
  let low ← hexQuad
  if low < 0xdc00 || low > 0xdfff then fail .loneSurrogate
  return Char.ofNat ((high - 0xd800) * 0x400 + (low - 0xdc00) + 0x10000)

def shortEscape? (c : Char) : Option Char :=
  match c with
  | '"' | '\\' | '/' => some c
  | 'b' => some '\x08'
  | 'f' => some '\x0c'
  | 'n' => some '\n'
  | 'r' => some '\r'
  | 't' => some '\t'
  | _ => none

def escape : Reader Char := do
  match ← peek? with
  | none => fail .endInString
  | some 'u' =>
    eat
    unicodeEscape
  | some c =>
    match shortEscape? c with
    | none => failIn .badEscape
    | some d =>
      eat
      return d

/-- The characters of a string up to its closing quote, last first. The text bounds the number of
steps. -/
def stringTail : List Char → List Char → Reader (List Char)
  | [], _ => fail .endInString
  | _ :: bound, taken => do
    match ← next? with
    | none => fail .endInString
    | some '"' => return taken
    | some '\\' => do
      let c ← escape
      stringTail bound (c :: taken)
    | some c => if c.toNat < 0x20 then fail .controlCharacter else stringTail bound (c :: taken)

def string : Reader String := do
  let taken ← stringTail (← get).rest []
  return String.ofList taken.reverse

def endList : Reader Unit := do
  match ← peekValue? with
  | some ']' => eat
  | some ',' =>
    eat
    match ← peekValue? with
    | some ']' => failNext .trailingComma
    | _ => failNext .trailingCharacters
  | some _ => failNext .trailingCharacters
  | none => failNext .endInList

def endObject : Reader Unit := do
  match ← peekValue? with
  | some '\x7d' => eat
  | some ',' => failNext .trailingComma
  | some _ => failNext .trailingCharacters
  | none => failNext .endInObject

/-- Reads a body and its end. The end is looked for even after a problem with the body, which is
then placed where that search stopped. -/
def closedBy {α : Type} (body : Reader α) (finish : Reader Unit) : Reader α := fun s =>
  match body s with
  | .ok a s' =>
    match finish s' with
    | .ok _ s'' => .ok a s''
    | .error e s'' => .error e s''
  | .error e s' =>
    match finish s' with
    | .ok _ s'' => .error e s''
    | .error _ s'' => .error e s''

def moreItems (first : Bool) : Reader Bool := do
  match ← peekValue? with
  | none => failNext .endInList
  | some ']' => return false
  | some c =>
    if first then return true
    if c != ',' then failNext .expectedCommaOrBracket
    eat
    match ← peekValue? with
    | some ']' => failNext .trailingComma
    | some _ => return true
    | none => failNext .endInValue

def moreMembers (first : Bool) : Reader Bool := do
  match ← peekValue? with
  | none => failNext .endInObject
  | some '\x7d' => return false
  | some c =>
    if first then
      if c == '"' then return true else failNext .keyNotString
    if c != ',' then failNext .expectedCommaOrBrace
    eat
    match ← peekValue? with
    | some '"' => return true
    | some '\x7d' => failNext .trailingComma
    | some _ => failNext .keyNotString
    | none => failNext .endInValue

def colon : Reader Unit := do
  match ← peekValue? with
  | some ':' => eat
  | some _ => failNext .expectedColon
  | none => failNext .endInObject

def items {σ : Type} (item : σ → Reader σ) : Nat → Bool → σ → Reader σ
  | 0, _, acc => return acc
  | fuel + 1, first, acc => do
    if ← moreItems first then
      let acc ← item acc
      items item fuel false acc
    else return acc

def members {σ : Type} (member : String → σ → Reader σ) : Nat → Bool → σ → Reader σ
  | 0, _, acc => return acc
  | fuel + 1, first, acc => do
    if ← moreMembers first then
      eat
      let key ← string
      let acc ← member key acc
      members member fuel false acc
    else return acc

/-- More steps than a list or object in the rest of the text can take. -/
def bound : Reader Nat := return (← get).rest.length + 1

/-- Any value. `levels` is one more than the nesting of lists and objects that is allowed. -/
def value : Nat → Reader Json
  | 0 => failNext .tooDeep
  | levels + 1 => do
    match ← peekValue? with
    | none => failNext .endInValue
    | some 'n' =>
      eat
      word ['u', 'l', 'l']
      return .null
    | some 't' =>
      eat
      word ['r', 'u', 'e']
      return .bool true
    | some 'f' =>
      eat
      word ['a', 'l', 's', 'e']
      return .bool false
    | some '-' =>
      eat
      return .number (← number true)
    | some '"' =>
      eat
      return .string (← string)
    | some '[' =>
      if levels == 0 then failNext .tooDeep
      eat
      let taken ← closedBy
        (items (fun acc => return (← value levels) :: acc) (← bound) true []) endList
      return .array taken.reverse
    | some '\x7b' =>
      if levels == 0 then failNext .tooDeep
      eat
      let member (key : String) (acc : List (String × Json)) :
          Reader (List (String × Json)) := do
        colon
        return (key, ← value levels) :: acc
      let taken ← closedBy (members member (← bound) true []) endObject
      return .object taken.reverse
    | some c => if c.isDigit then return .number (← number false) else failNext .expectedValue

def finish : Reader Unit := do
  if (← peekValue?).isSome then failNext .trailingCharacters

def run {α : Type} (p : Reader α) (text : String) : Except Fault α :=
  let chars := text.toList
  let whole : Reader α := do
    let a ← p
    finish
    return a
  match whole ⟨chars, 0⟩ with
  | .ok a _ => .ok a
  | .error e s =>
    let (line, column) := lineColumn (e.pos.getD s.pos) chars 0 1 0
    .error ⟨e.cause, line, column⟩

end Reader

/-- The nesting of lists and objects that a document may have. -/
def maxNesting : Nat := 127

def parse (text : String) : Except Fault Json := Reader.run (.value (maxNesting + 1)) text

end ModuleBundler.Json
