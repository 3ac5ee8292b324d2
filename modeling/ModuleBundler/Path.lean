import ModuleBundler.Text.Utf8

/-!
Paths of a file system whose separator is the slash. A path is made of bytes, which need not be a
text; two paths with the same components name the same file. Nothing here looks at a file system:
`..` cancels the name before it, whatever that name may link to.
-/
namespace ModuleBundler

structure Path where
  bytes : List UInt8
deriving DecidableEq

def Path.slash : UInt8 := 0x2F

def Path.dot : UInt8 := 0x2E

/-- What a path is made of. A single dot counts only at the start of a relative path. -/
inductive Component where
  | root
  | here
  | up
  | name (bytes : List UInt8)
deriving DecidableEq

namespace Component

open ModuleBundler.Path (slash dot)

def bytes : Component → List UInt8
  | root => [slash]
  | here => [dot]
  | up => [dot, dot]
  | name bs => bs

/-- The component that stands between two slashes, unless it counts for nothing there. -/
def ofSegment? (segment : List UInt8) : Option Component :=
  if segment == [] || segment == [dot] then none
  else if segment == [dot, dot] then some up
  else some (name segment)

end Component

namespace Path

def ofString (s : String) : Path := ⟨Utf8.encode s.toList⟩

/-- The path as it is shown. What is no text in it shows as unknown characters. -/
def text (p : Path) : String := String.ofList (Utf8.shown p.bytes)

/-- The text that the path is, if it is one. -/
def text? (p : Path) : Option String := (Utf8.chars? p.bytes).map String.ofList

def segmentsOf (bytes : List UInt8) : List (List UInt8) := bytes.splitOn slash

def isAbsolute (p : Path) : Bool := p.bytes.head? == some slash

def components (p : Path) : List Component :=
  match segmentsOf p.bytes with
  | [] => []
  | first :: more =>
    let rest := more.filterMap Component.ofSegment?
    if p.isAbsolute then .root :: rest
    else if first == [dot] then .here :: rest
    else (Component.ofSegment? first).toList ++ rest

/-- Appends a path. An absolute one replaces what was there. -/
def join (base p : Path) : Path :=
  if p.isAbsolute then p
  else if base.bytes.isEmpty || base.bytes.getLast? == some slash then ⟨base.bytes ++ p.bytes⟩
  else ⟨base.bytes ++ slash :: p.bytes⟩

def ofComponents (cs : List Component) : Path :=
  cs.foldl (fun p c => p.join ⟨c.bytes⟩) ⟨[]⟩

/-- One step of normalizing: the components kept so far, last first, and the next one. -/
def normalStep (kept : List Component) : Component → List Component
  | .here => kept
  | .up =>
    match kept with
    | .root :: _ => kept
    | .name _ :: rest => rest
    | _ => .up :: kept
  | c => c :: kept

def normalComponents (cs : List Component) : List Component :=
  (cs.foldl normalStep []).reverse

/-- The path without dots and without names that `..` cancels; `.` if nothing is left. -/
def normalize (p : Path) : Path :=
  match normalComponents p.components with
  | [] => ⟨[dot]⟩
  | cs => ofComponents cs

/-- The components after the longest common start of two lists. -/
def afterCommon : List Component → List Component → List Component × List Component
  | a :: as, b :: bs => if a = b then afterCommon as bs else (a :: as, b :: bs)
  | as, bs => (as, bs)

/-- The way from one path to another: up from what only the first has, then down. -/
def relative (base target : Path) : Path :=
  let (up, down) := afterCommon base.components target.components
  ofComponents (up.map (fun _ => Component.up) ++ down)

/-- The path as it is shown, with every backslash turned into a slash. -/
def slashed (p : Path) : String :=
  String.ofList ((Utf8.shown p.bytes).map fun c => if c == '\\' then '/' else c)

/-- The name of a module: its place relative to the root of the build. -/
def moduleId (root path : Path) : String := "./" ++ (relative root path).slashed

/-- Drops the segments that count for nothing, from the end of a reversed list. -/
def dropTrivial : List (List UInt8) → List (List UInt8) :=
  List.dropWhile fun s => (Component.ofSegment? s).isNone

def joinSegments (segments : List (List UInt8)) : List UInt8 := List.intercalate [slash] segments

/-- The directory that holds the path; none for the root and for the empty path. -/
def parent (p : Path) : Option Path :=
  match segmentsOf p.bytes with
  | [] => none
  | first :: more =>
    if p.isAbsolute then
      match dropTrivial more.reverse with
      | [] => none
      | _ :: rest => some ⟨slash :: joinSegments (dropTrivial rest).reverse⟩
    else
      let lead := first == [dot] || (Component.ofSegment? first).isSome
      match dropTrivial more.reverse with
      | [] => if lead then some ⟨[]⟩ else none
      | _ :: rest => some ⟨joinSegments (first :: (dropTrivial rest).reverse)⟩

def fileName? (p : Path) : Option (List UInt8) :=
  match p.components.getLast? with
  | some (.name bs) => some bs
  | _ => none

end Path

end ModuleBundler
