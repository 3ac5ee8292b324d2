import ModuleBundler.Pattern.Expression
import ModuleBundler.Unicode.Lookup
import ModuleBundler.Unicode.Fold

/-!
Reading the text of a pattern. Flags are settled while reading, so that every letter and class
becomes a set of characters at once.
-/
namespace ModuleBundler.Pattern

open Unicode (Membership isBlank)
open Unicode.Property (word asciiWord)

structure Flags where
  ignoreCase : Bool
  multiLine : Bool
  dotAll : Bool
  unicode : Bool
  carriage : Bool
  /-- Blanks and comments between the parts of a pattern do not count. -/
  verbose : Bool

namespace Flags

def default : Flags := ⟨false, false, false, true, false, false⟩

/-- Sets the flag with a letter. How eager a repetition is does not matter for a search. -/
def assign? (flags : Flags) (on : Bool) : Char → Option Flags
  | 'i' => some { flags with ignoreCase := on }
  | 'm' => some { flags with multiLine := on }
  | 's' => some { flags with dotAll := on }
  | 'U' => some flags
  | 'u' => some { flags with unicode := on }
  | 'R' => some { flags with carriage := on }
  | 'x' => some { flags with verbose := on }
  | _ => none

end Flags

structure State where
  rest : List Char
  flags : Flags
  names : List (List Char)

abbrev Reader := StateT State Option

def dropBlank : (comment : Bool) → List Char → List Char
  | _, [] => []
  | true, c :: rest => dropBlank (c != '\n') rest
  | false, c :: rest =>
    if isBlank c then dropBlank false rest
    else if c == '#' then dropBlank true rest
    else c :: rest

namespace Reader

def peek : Reader (Option Char) := return (← get).rest.head?

def bump : Reader Unit := modify fun s => { s with rest := s.rest.tail }

def skipBlank : Reader Unit :=
  modify fun s => if s.flags.verbose then { s with rest := dropBlank false s.rest } else s

def step : Reader Unit := do bump; skipBlank

def here : Reader Char := do
  match ← peek with
  | some c => return c
  | none => failure

def accept (text : String) : Reader Bool := do
  let s ← get
  if text.toList.isPrefixOf s.rest then
    set { s with rest := s.rest.drop text.length }
    return true
  else return false

def onlyAsciiBytes (members : Membership) : Reader Membership := do
  if (← get).flags.unicode then return members
  else if members.changes.all (· ≤ 0x80) && !members.contains 0x80 then return members
  else failure

def folded (members : Membership) : Reader Membership := do
  let flags := (← get).flags
  if !flags.ignoreCase then return members
  else return if flags.unicode then members.caseless else members.caselessAscii

/-- What a single element of a pattern or of a class can be. -/
inductive Element where
  /-- A character. `byte` tells that it was written as the number of a byte. -/
  | literal (c : Char) (byte : Bool)
  | members (set : Membership)
  | look (condition : Look)

def isHex (c : Char) : Bool :=
  c.isDigit || ('a' ≤ c && c ≤ 'f') || ('A' ≤ c && c ≤ 'F')

def hexValue (c : Char) : Nat :=
  if c.isDigit then c.toNat - 0x30
  else if 'a' ≤ c then c.toNat - 0x61 + 10
  else c.toNat - 0x41 + 10

/-- The character with a number. Halves of pairs are none. -/
def character (n : Nat) : Reader Char :=
  if n.isValidChar then return Char.ofNat n else failure

def digitsValue (base : Nat) (digits : List Char) : Nat :=
  digits.foldl (fun n c => n * base + hexValue c) 0

def hexDigits : Nat → Reader (List Char)
  | 0 => return []
  | n + 1 => do
    let c ← here
    if !isHex c then failure
    step
    return c :: (← hexDigits n)

def hexUntilBrace : Nat → Reader (List Char)
  | 0 => failure
  | fuel + 1 => do
    let c ← here
    if c == '\x7d' then
      step
      return []
    else
      if !isHex c then failure
      step
      return c :: (← hexUntilBrace fuel)

def numbered (letter : Char) : Reader Element := do
  step
  if (← here) == '\x7b' then
    step
    let digits ← hexUntilBrace ((← get).rest.length + 1)
    if digits.isEmpty then failure
    return .literal (← character (digitsValue 16 digits)) false
  else
    let digits ← hexDigits (if letter == 'x' then 2 else if letter == 'u' then 4 else 8)
    return .literal (← character (digitsValue 16 digits)) (letter == 'x')

def untilBrace : Nat → Reader (List Char)
  | 0 => failure
  | fuel + 1 => do
    step
    let c ← here
    if c == '\x7d' then
      bump
      return []
    else return c :: (← untilBrace fuel)

def splitAt? (separator : List Char) : List Char → Option (List Char × List Char)
  | [] => none
  | c :: rest =>
    if separator.isPrefixOf (c :: rest) then some ([], (c :: rest).drop separator.length)
    else (splitAt? separator rest).map fun (a, b) => (c :: a, b)

def property (negated : Bool) : Reader Element := do
  step
  let c ← here
  let (found, negated) ←
    if c == '\x7b' then do
      let name ← untilBrace ((← get).rest.length + 1)
      if let some (p, v) := splitAt? ['!', '='] name then
        pure (Unicode.Property.ofValue? p v, !negated)
      else if let some (p, v) := splitAt? [':'] name then
        pure (Unicode.Property.ofValue? p v, negated)
      else if let some (p, v) := splitAt? ['='] name then
        pure (Unicode.Property.ofValue? p v, negated)
      else pure (Unicode.Property.ofName? name, negated)
    else do
      if c == '\\' then failure
      step
      pure (Unicode.Property.ofName? [c], negated)
  match found with
  | none => failure
  | some members =>
    if !(← get).flags.unicode then failure
    let members ← folded members
    return .members (if negated then members.complement else members)

def shorthand (letter : Char) : Reader Element := do
  bump
  let unicode := (← get).flags.unicode
  let members := match letter.toLower with
    | 'd' => if unicode then Unicode.Category.decimalNumber else .range 0x30 0x39
    | 's' =>
      if unicode then Unicode.whiteSpace
      else (Membership.range 9 13).union (.range 0x20 0x20)
    | _ => if unicode then word else asciiWord
  if letter.isUpper then return .members (← onlyAsciiBytes members.complement)
  else return .members members

def takeEdgeName : Nat → Reader (List Char)
  | 0 => failure
  | fuel + 1 => do
    match ← peek with
    | some c =>
      if c.isAlpha || c == '-' then
        step
        return c :: (← takeEdgeName fuel)
      else return []
    | none => return []

/-- The kind of a word boundary that braces may give; braces that hold something else are left for
a repetition. -/
def wordEdge : Reader WordEdge := do
  let s ← get
  if s.rest.head? != some '\x7b' then return .boundary
  step
  let c ← here
  if !(c.isAlpha || c == '-') then
    set s
    return .boundary
  let name ← takeEdgeName (s.rest.length + 1)
  if (← here) != '\x7d' then failure
  bump
  match String.ofList name with
  | "start" => return .start
  | "end" => return .stop
  | "start-half" => return .startHalf
  | "end-half" => return .stopHalf
  | _ => failure

def escape : Reader Element := do
  bump
  let c ← here
  if c.isDigit then failure
  if c == 'x' || c == 'u' || c == 'U' then return ← numbered c
  if c == 'p' || c == 'P' then return ← property (c == 'P')
  if "dswDSW".toList.contains c then return ← shorthand c
  bump
  let unicode := (← get).flags.unicode
  match c with
  | 'a' => return .literal '\x07' false
  | 'f' => return .literal '\x0c' false
  | 't' => return .literal '\t' false
  | 'n' => return .literal '\n' false
  | 'r' => return .literal '\r' false
  | 'v' => return .literal '\x0b' false
  | 'A' => return .look .textStart
  | 'z' => return .look .textEnd
  | 'b' => return .look (.word (← wordEdge) unicode)
  | 'B' => return .look (.word .noBoundary unicode)
  | '<' => return .look (.word .start unicode)
  | '>' => return .look (.word .stop unicode)
  | _ => if c.isAlphanum || c.val ≥ 0x80 then failure else return .literal c false

inductive SetOperation where
  | inter | diff | symmDiff

def SetOperation.apply (a b : Membership) : SetOperation → Membership
  | inter => a.inter b
  | diff => a.diff b
  | symmDiff => a.symmDiff b

/-- What has been read of a class, with the depth of the classes in it. -/
structure Members where
  set : Membership
  depth : Nat
  /-- How many elements are listed side by side. -/
  count : Nat

namespace Members

def none : Members := ⟨.empty, 0, 0⟩

def add (m : Members) (set : Membership) (depth : Nat) : Members :=
  ⟨m.set.union set, max m.depth depth, m.count + 1⟩

def level (m : Members) : Nat := if m.count ≤ 1 then m.depth else m.depth + 1

end Members

def asciiClass? : String → Option Membership
  | "alnum" => some (.unions [.range 0x30 0x39, .range 0x41 0x5A, .range 0x61 0x7A])
  | "alpha" => some (.unions [.range 0x41 0x5A, .range 0x61 0x7A])
  | "ascii" => some (.range 0 0x7F)
  | "blank" => some (.unions [.range 9 9, .range 0x20 0x20])
  | "cntrl" => some (.unions [.range 0 0x1F, .range 0x7F 0x7F])
  | "digit" => some (.range 0x30 0x39)
  | "graph" => some (.range 0x21 0x7E)
  | "lower" => some (.range 0x61 0x7A)
  | "print" => some (.range 0x20 0x7E)
  | "punct" => some (.unions [.range 0x21 0x2F, .range 0x3A 0x40, .range 0x5B 0x60,
      .range 0x7B 0x7E])
  | "space" => some (.unions [.range 9 13, .range 0x20 0x20])
  | "upper" => some (.range 0x41 0x5A)
  | "word" => some asciiWord
  | "xdigit" => some (.unions [.range 0x30 0x39, .range 0x41 0x46, .range 0x61 0x66])
  | _ => none

def asciiClass : Reader (Option Membership) := do
  let s ← get
  match s.rest with
  | '[' :: ':' :: rest =>
    let (negated, rest) := match rest with
      | '^' :: rest => (true, rest)
      | _ => (false, rest)
    match rest.dropWhile (· != ':') with
    | ':' :: ']' :: after =>
      match asciiClass? (String.ofList (rest.takeWhile (· != ':'))) with
      | some members =>
        set { s with rest := after }
        return some (if negated then members.complement else members)
      | none => return none
    | _ => return none
  | _ => return none

/-- One element of a class. A dot is a dot there. -/
def classElement : Reader Element := do
  let c ← here
  if c == '\\' then escape
  else
    bump
    return .literal c false

/-- The character that a bound of a range must be. Classes of bytes hold ASCII only. -/
def bound : Element → Reader Char
  | .literal c _ => do
    if c.val ≥ 0x80 && !(← get).flags.unicode then failure
    return c
  | _ => failure

def classRange : Reader Membership := do
  let first ← classElement
  skipBlank
  let c ← here
  let s ← get
  let next := (if s.flags.verbose then dropBlank false s.rest.tail else s.rest.tail).head?
  if c != '-' || next == some ']' || next == some '-' then
    match first with
    | .members set => return set
    | e =>
      let c ← bound e
      return .range c.toNat c.toNat
  else
    step
    discard here
    let last ← classElement
    let first ← bound first
    let last ← bound last
    if last < first then failure
    return .range first.toNat last.toNat

def leadingHyphens : Nat → Members → Reader Members
  | 0, _ => failure
  | fuel + 1, m => do
    if (← here) == '-' then
      step
      leadingHyphens fuel (m.add (.range 0x2D 0x2D) 0)
    else return m

/-- The start of a class: whether it is negated, and the elements that stand for themselves only
there. -/
def openClass : Reader (Bool × Members) := do
  step
  let negated := (← here) == '^'
  if negated then step
  let m ← leadingHyphens ((← get).rest.length + 1) .none
  if m.count = 0 && (← here) == ']' then
    step
    discard here
    return (negated, m.add (.range 0x5D 0x5D) 0)
  return (negated, m)

def closeOperand (left : Option (SetOperation × Members)) (m : Members) : Reader Members := do
  match left with
  | none => return m
  | some (op, l) => return ⟨op.apply (← folded l.set) (← folded m.set), 1 + max l.level m.level, 1⟩

def classBody : Nat → Bool → Option (SetOperation × Members) → Members → Reader Members
  | 0, _, _, _ => failure
  | fuel + 1, negated, left, m => do
    skipBlank
    let c ← here
    let operator (op : SetOperation) : Reader Members := do
      bump
      bump
      classBody fuel negated (some (op, ← closeOperand left m)) .none
    if c == '[' then
      match ← asciiClass with
      | some members => classBody fuel negated left (m.add members 0)
      | none =>
        let (innerNegated, start) ← openClass
        let inner ← classBody fuel innerNegated none start
        classBody fuel negated left (m.add inner.set inner.depth)
    else if c == ']' then
      bump
      let all ← closeOperand left m
      let members ← folded all.set
      let members ← onlyAsciiBytes (if negated then members.complement else members)
      return ⟨members, 1 + all.level, 1⟩
    else
      let next := (← get).rest.tail.head?
      if c == '&' && next == some '&' then operator .inter
      else if c == '-' && next == some '-' then operator .diff
      else if c == '~' && next == some '~' then operator .symmDiff
      else classBody fuel negated left (m.add (← classRange) 0)

def bracketed : Reader Expr := do
  let (negated, start) ← openClass
  let m ← classBody ((← get).rest.length + 1) negated none start
  return .nest m.depth (.set m.set)

def ofElement : Element → Reader Expr
  | .members set => return .set set
  | .look condition => return .look condition
  | .literal c byte => do
    let flags := (← get).flags
    if byte && !flags.unicode && c.val ≥ 0x80 then failure
    return .set (← folded (.range c.toNat c.toNat))

def dot : Reader Expr := do
  bump
  let flags := (← get).flags
  if !flags.unicode then failure
  let excluded :=
    if flags.dotAll then Membership.empty
    else if flags.carriage then (Membership.range 10 10).union (.range 13 13)
    else .range 10 10
  return .set excluded.complement

def primitive : Reader Expr := do
  let c ← here
  let flags := (← get).flags
  match c with
  | '\\' => ofElement (← escape)
  | '.' => dot
  | '^' =>
    bump
    return .look (if flags.multiLine then .lineStart flags.carriage else .textStart)
  | '$' =>
    bump
    return .look (if flags.multiLine then .lineEnd flags.carriage else .textEnd)
  | _ =>
    bump
    ofElement (.literal c false)

def decimalDigits : Nat → Reader (List Char)
  | 0 => failure
  | fuel + 1 => do
    match ← peek with
    | some c =>
      if c.isDigit then
        step
        return c :: (← decimalDigits fuel)
      else return []
    | none => return []

def decimal : Reader (Option Nat) := do
  let dropSpace : Reader Unit := modify fun s => { s with rest := s.rest.dropWhile isBlank }
  dropSpace
  let digits ← decimalDigits ((← get).rest.length + 1)
  dropSpace
  skipBlank
  dropSpace
  if digits.isEmpty then return none
  let n := digitsValue 10 digits
  if n < Nat.pow 2 32 then return some n else failure

def counts : Reader (Nat × Option Nat) := do
  step
  let least ← decimal
  let bounds ←
    if (← here) == ',' then do
      step
      if (← here) == '\x7d' then
        match least with
        | some n => pure (n, none)
        | none => failure
      else
        match least, ← decimal with
        | some n, some m => pure (n, some m)
        | _, _ => failure
    else
      match least with
      | some n => pure (n, some n)
      | none => failure
  if (← here) != '\x7d' then failure
  step
  if (← peek) == some '?' then bump
  match bounds with
  | (n, some m) => if m < n then failure else return bounds
  | _ => return bounds

def isNameStart (c : Char) : Bool :=
  c == '_' || Unicode.Property.alphabetic.contains c.toNat

def isNamePart (c : Char) : Bool :=
  isNameStart c || c == '.' || c == '[' || c == ']' ||
    Unicode.Property.number.contains c.toNat

/-- The name of a group, up to a closing angle bracket. No two groups share a name. -/
def groupName : Reader Unit := do
  let s ← get
  let name := s.rest.takeWhile (· != '>')
  match name, s.rest.dropWhile (· != '>') with
  | c :: more, '>' :: rest =>
    if isNameStart c && more.all isNamePart && !s.names.contains name then
      set { s with rest, names := name :: s.names }
    else failure
  | _, _ => failure

/-- What flags turn on and, after a hyphen, off. -/
structure FlagItems where
  flags : Flags
  negated : Bool
  seen : List Char

/-- Reads flags up to a colon or a closing bracket. None is set twice, and a hyphen is not the
last. -/
def flagItems : Nat → FlagItems → Reader FlagItems
  | 0, _ => failure
  | fuel + 1, items => do
    let c ← here
    if c == ':' || c == ')' then
      if items.seen.head? == some '-' then failure else return items
    else if items.seen.contains c then failure
    else
      bump
      let seen := c :: items.seen
      if c == '-' then flagItems fuel { items with negated := true, seen }
      else
        match items.flags.assign? (!items.negated) c with
        | some flags => flagItems fuel { items with flags, seen }
        | none => failure

end Reader

/-- The choices and elements of a group, both last first. No expression stands for flags, which
cannot be repeated. -/
structure Group where
  choices : List Expr
  elements : List (Option Expr)

namespace Group

def new : Group := ⟨[], []⟩

def add (g : Group) (e : Option Expr) : Group := { g with elements := e :: g.elements }

def sequence (g : Group) : Expr :=
  match g.elements with
  | [] => .empty
  | e :: before => before.foldl (fun later e => .cat (e.getD .empty) later) (e.getD .empty)

def close (g : Group) : Group := ⟨g.sequence :: g.choices, []⟩

def expr (g : Group) : Expr := g.choices.foldl (fun later e => .alt e later) g.sequence

end Group

/-- A group that is being read, inside others. Each of those keeps the flags that held before the
group in it. -/
structure Nesting where
  group : Group
  outer : List (Group × Flags)

namespace Reader

def opened (n : Nesting) : Reader Nesting := do
  step
  if (← accept "?=") || (← accept "?!") then failure
  if (← accept "?<=") || (← accept "?<!") then failure
  let before := (← get).flags
  let inner : Nesting := ⟨.new, (n.group, before) :: n.outer⟩
  if ← accept "?P<" <||> accept "?<" then
    groupName
    return inner
  else if ← accept "?" then
    let items ← flagItems ((← get).rest.length + 1) ⟨before, false, []⟩
    let c ← here
    bump
    if c == ')' && items.seen.isEmpty then failure
    modify fun s => { s with flags := items.flags }
    if c == ')' then return { n with group := n.group.add none } else return inner
  else return inner

def repeated (n : Nesting) (min : Nat) (max : Option Nat) : Reader Nesting := do
  match n.group.elements with
  | some e :: before => return { n with group.elements := some (.repeated e min max) :: before }
  | _ => failure

def part (n : Nesting) : Reader Nesting := do
  let simple (min : Nat) (max : Option Nat) : Reader Nesting := do
    let n ← repeated n min max
    bump
    if (← peek) == some '?' then bump
    return n
  match ← here with
  | '(' => opened n
  | ')' =>
    match n.outer with
    | [] => failure
    | (group, flags) :: outer =>
      bump
      modify fun s => { s with flags }
      return ⟨group.add (some (.nest 1 n.group.expr)), outer⟩
  | '|' =>
    bump
    return { n with group := n.group.close }
  | '[' => return { n with group := n.group.add (some (← bracketed)) }
  | '?' => simple 0 (some 1)
  | '*' => simple 0 none
  | '+' => simple 1 none
  | '\x7b' =>
    let (min, max) ← counts
    repeated n min max
  | _ => return { n with group := n.group.add (some (← primitive)) }

def parts : Nat → Nesting → Reader Expr
  | 0, _ => failure
  | fuel + 1, n => do
    skipBlank
    match ← peek with
    | none => if n.outer.isEmpty then return n.group.expr else failure
    | some _ => parts fuel (← part n)

end Reader

def Expr.read? (text : List Char) : Option Expr :=
  ((Reader.parts (text.length + 1) ⟨.new, []⟩).run ⟨text, .default, []⟩).map (·.1)

end ModuleBundler.Pattern
