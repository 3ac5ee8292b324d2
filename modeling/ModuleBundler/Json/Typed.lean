import ModuleBundler.Json.Reader
import ModuleBundler.Text.Quoted

/-!
Reading JSON values of known types. What is not asked for is skipped, and then only its form
counts.
-/
namespace ModuleBundler.Json.Reader

def describe : JsonNumber → String
  | .float x => "floating point `" ++ String.ofList (JsonNumber.float x).text ++ "`"
  | n => "integer `" ++ String.ofList n.text ++ "`"

/-- Fails because of the type of the value that comes next. The value is read, unless it is a list
or an object. -/
def mismatch {α : Type} (expected : String) : Reader α :=
  placed do
    let wrong (found : String) : Reader α := failUnplaced (.wrongType found expected)
    match ← peek? with
    | some 'n' =>
      eat
      word ['u', 'l', 'l']
      wrong "null"
    | some 't' =>
      eat
      word ['r', 'u', 'e']
      wrong "boolean `true`"
    | some 'f' =>
      eat
      word ['a', 'l', 's', 'e']
      wrong "boolean `false`"
    | some '-' =>
      eat
      wrong (describe (← number true))
    | some '"' =>
      eat
      wrong ("string " ++ Text.visible (← string))
    | some '[' => wrong "sequence"
    | some '\x7b' => wrong "map"
    | some c =>
      if c.isDigit then wrong (describe (← number false)) else failNext .expectedValue
    | none => failNext .expectedValue

def valueStart : Reader Char := do
  match ← peekValue? with
  | some c => return c
  | none => failNext .endInValue

def stringValue : Reader String :=
  placed do
    if (← valueStart) == '"' then
      eat
      string
    else mismatch "a string"

def nullable {α : Type} (p : Reader α) : Reader (Option α) := do
  if (← peekValue?) == some 'n' then
    eat
    word ['u', 'l', 'l']
    return none
  else return some (← p)

def listOf {α : Type} (item : Reader α) : Reader (List α) :=
  placed do
    if (← valueStart) == '[' then
      eat
      let taken ← closedBy (items (fun acc => return (← item) :: acc) (← bound) true []) endList
      return taken.reverse
    else mismatch "a sequence"

def byte : Reader Nat :=
  placed do
    let c ← valueStart
    if c == '-' || c.isDigit then
      if c == '-' then eat
      match ← number (c == '-') with
      | .natural n =>
        if n < 256 then return n else failUnplaced (.wrongValue (describe (.natural n)) "u8")
      | .negative n => failUnplaced (.wrongValue (describe (.negative n)) "u8")
      | .float x => failUnplaced (.wrongType (describe (.float x)) "u8")
    else mismatch "u8"

def skipInteger : Reader Unit := do
  match ← peek? with
  | none => fail .badNumber
  | some c =>
    if !c.isDigit then failIn .badNumber
    eat
    if c == '0' then
      if (← peek?).any Char.isDigit then failNext .badNumber
    else discard (takeWhile Char.isDigit)

def skipExponent : Reader Unit := do
  eat
  let sign ← peek?
  if sign == some '+' || sign == some '-' then eat
  match ← peek? with
  | none => fail .badNumber
  | some c =>
    if !c.isDigit then failIn .badNumber
    discard (takeWhile Char.isDigit)

/-- Skips a number after its sign. How large it is does not count. -/
def skipNumber : Reader Unit := do
  skipInteger
  if (← peek?) == some '.' then
    eat
    let digits ← takeWhile Char.isDigit
    if digits.isEmpty then failNext .badNumber
  let mark ← peek?
  if mark == some 'e' || mark == some 'E' then skipExponent

/-- Skips a string after its opening quote. Surrogates need not come in pairs. -/
def skipString : List Char → Reader Unit
  | [] => fail .endInString
  | _ :: bound => do
    match ← peek? with
    | none => fail .endInString
    | some '"' => eat
    | some '\\' =>
      eat
      match ← peek? with
      | none => fail .endInString
      | some 'u' =>
        eat
        discard hexQuad
      | some c => if (shortEscape? c).isNone then failIn .badEscape else eat
      skipString bound
    | some c =>
      if c.toNat < 0x20 then fail .controlCharacter
      eat
      skipString bound

def skipScalar (c : Char) : Reader Unit := do
  if c.isDigit then skipNumber
  else
    match c with
    | 'n' =>
      eat
      word ['u', 'l', 'l']
    | 't' =>
      eat
      word ['r', 'u', 'e']
    | 'f' =>
      eat
      word ['a', 'l', 's', 'e']
    | '-' =>
      eat
      skipNumber
    | '"' =>
      eat
      skipString ('"' :: (← get).rest)
    | _ => failNext .expectedValue

def skipKey : Reader Unit := do
  match ← peekValue? with
  | some '"' => eat
  | some _ => failNext .keyNotString
  | none => failNext .endInObject
  skipString ('"' :: (← get).rest)
  colon

mutual

/-- Skips a value and what follows it in the lists and objects around it, the innermost first. -/
def skipFrom : Nat → List Char → Reader Unit
  | 0, _ => return ()
  | fuel + 1, around => do
    let c ← valueStart
    if c == '[' || c == '\x7b' then
      eat
      skipOn fuel false (c :: around)
    else
      skipScalar c
      skipOn fuel true around

/-- Skips what follows a value, or an opening bracket if nothing has come after that yet. -/
def skipOn : Nat → Bool → List Char → Reader Unit
  | 0, _, _ => return ()
  | _, _, [] => return ()
  | fuel + 1, afterValue, opening :: outer => do
    let list := opening == '['
    let another : Reader Unit := do
      if !list then skipKey
      skipFrom fuel (opening :: outer)
    match ← peekValue? with
    | none => failNext (if list then .endInList else .endInObject)
    | some c =>
      if c == (if list then ']' else '\x7d') then
        eat
        skipOn fuel true outer
      else if afterValue then
        if c == ',' then
          eat
          another
        else failNext (if list then .expectedCommaOrBracket else .expectedCommaOrBrace)
      else another

end

def skip : Reader Unit := do
  let s ← get
  skipFrom (2 * s.rest.length + 2) []

/-- A part of a record. `read` puts its value in. -/
structure Member (α : Type) where
  name : String
  read : α → Reader α
  required : Bool
  /-- A list that stands for the record may end before it. -/
  omissible : Bool

/-- A member of an object that stands for a record, with the names of those before it. -/
def recordMember {α : Type} (fields : List (Member α)) (key : String) (acc : α × List String) :
    Reader (α × List String) := do
  match fields.find? fun f => f.name == key with
  | some f =>
    if acc.2.contains key then failUnplaced (.duplicateField key)
    colon
    return (← f.read acc.1, key :: acc.2)
  | none =>
    colon
    skip
    return acc

/-- The items of a list that stands for a record, in the order of its parts. -/
def recordItems {α : Type} (expected : String) : Nat → List (Member α) → α → Reader α
  | _, [], a => return a
  | i, f :: more, a => do
    if ← moreItems (i == 0) then recordItems expected (i + 1) more (← f.read a)
    else if f.omissible then recordItems expected (i + 1) more a
    else failUnplaced (.wrongLength i expected)

def record {α : Type} (type : String) (fields : List (Member α)) (start : α) : Reader α :=
  placed do
    let name := "struct " ++ type
    let c ← valueStart
    if c == '\x7b' then
      eat
      let body : Reader α := do
        let (a, seen) ← members (recordMember fields) (← bound) true (start, [])
        match fields.find? fun f => f.required && !seen.contains f.name with
        | some f => failUnplaced (.missingField f.name)
        | none => return a
      closedBy body endObject
    else if c == '[' then
      eat
      let count := toString fields.length ++
        (if fields.length == 1 then " element" else " elements")
      closedBy (recordItems (name ++ " with " ++ count) 0 fields start) endList
    else mismatch name

end ModuleBundler.Json.Reader
