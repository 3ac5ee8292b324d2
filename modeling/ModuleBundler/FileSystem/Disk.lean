import ModuleBundler.FileSystem
import ModuleBundler.Keyed

/-!
A file system with directories, as a disk has it: a name leads on only where its directory exists,
and files hold bytes, which need not be a text.
-/
namespace ModuleBundler

/-- What a name on a disk stands for. -/
inductive Content where
  | directory
  | file (bytes : List UInt8)
deriving DecidableEq

/-- The files and directories by their names from the root on, and the directory that the process
works in. The root is always there. -/
structure Disk where
  entries : List (List (List UInt8) × Content)
  cwd : Path

namespace Disk

/-- A place on a disk, which may be empty. -/
structure Spot where
  names : List (List UInt8)
  /-- The path ends with a slash, so it can only mean a directory. -/
  directoryOnly : Bool

def maxNameBytes : Nat := 255

def maxPathBytes : Nat := 4095

def content? (d : Disk) (names : List (List UInt8)) : Option Content :=
  if names.isEmpty then some .directory else Keyed.get? names d.entries

/-- Goes on from a place by the names between slashes. What is gone through must be a directory. -/
def walk (d : Disk) : List (List UInt8) → List (List UInt8) → Except IoCause (List (List UInt8))
  | at_, [] => .ok at_
  | at_, [] :: more => walk d at_ more
  | at_, segment :: more =>
    match d.content? at_ with
    | none => .error .notFound
    | some (.file _) => .error .notDirectory
    | some .directory =>
      if segment.length > maxNameBytes then .error .nameTooLong
      else if segment = [Path.dot] then walk d at_ more
      else if segment = [Path.dot, Path.dot] then walk d at_.dropLast more
      else walk d (at_ ++ [segment]) more

def locate (d : Disk) (path : Path) : Except IoCause Spot :=
  if path.bytes.contains 0 then .error .badName
  else if path.bytes.isEmpty then .error .notFound
  else if path.bytes.length > maxPathBytes then .error .nameTooLong
  else
    match d.walk [] (Path.segmentsOf (d.cwd.join path).bytes) with
    | .ok names => .ok ⟨names, path.bytes.getLast? == some Path.slash⟩
    | .error cause => .error cause

/-- The places that a path goes through, each after the one that leads to it. -/
def placesFrom : List (List UInt8) → List (List UInt8) → List (List (List UInt8))
  | _, [] => []
  | at_, segment :: more =>
    if segment.isEmpty || segment = [Path.dot] then placesFrom at_ more
    else if segment = [Path.dot, Path.dot] then placesFrom at_.dropLast more
    else (at_ ++ [segment]) :: placesFrom (at_ ++ [segment]) more

def places (d : Disk) (path : Path) : List (List (List UInt8)) :=
  placesFrom [] (Path.segmentsOf (d.cwd.join path).bytes)

def stat (d : Disk) (path : Path) : Except IoCause Content := do
  let spot ← d.locate path
  match d.content? spot.names with
  | none => throw .notFound
  | some .directory => return .directory
  | some (.file bytes) => if spot.directoryOnly then throw .notDirectory else return .file bytes

def isFile (d : Disk) (path : Path) : Bool :=
  match d.stat path with
  | .ok (.file _) => true
  | _ => false

def isDirectory (d : Disk) (path : Path) : Bool :=
  match d.stat path with
  | .ok .directory => true
  | _ => false

def read (d : Disk) (path : Path) : Except IoCause String := do
  match ← d.stat path with
  | .directory => throw .isDirectory
  | .file bytes =>
    match String.fromUTF8? ⟨bytes.toArray⟩ with
    | some text => return text
    | none => throw .notText

def put (names : List (List UInt8)) (content : Content) (d : Disk) : Disk :=
  { d with entries := Keyed.put names content d.entries }

/-- Gives the file at a path a text. Its directory must be there. -/
def writeFile (path : Path) (text : String) (d : Disk) : Except IoCause Disk := do
  let spot ← d.locate path
  match d.content? spot.names with
  | some .directory => throw .isDirectory
  | _ =>
    if spot.directoryOnly then throw .isDirectory
    if d.content? spot.names.dropLast ≠ some .directory then throw .notFound
    return d.put spot.names (.file text.toUTF8.data.toList)

def makeOne (path : Path) (d : Disk) : Except IoCause Disk := do
  let spot ← d.locate path
  if (d.content? spot.names).isSome then throw .alreadyExists
  return d.put spot.names .directory

def ancestors : Nat → Path → List Path
  | 0, p => [p]
  | fuel + 1, p =>
    match p.parent with
    | some above => p :: ancestors fuel above
    | none => [p]

/-- Makes the lowest directory of a list that can be made, or finds it there: the paths below it,
which are still missing. -/
def makeLowest : List Path → List Path → Disk → Except IoCause (List Path × Disk)
  | [], missing, d => .ok (missing, d)
  | p :: above, missing, d =>
    if p.bytes.isEmpty then .ok (missing, d)
    else
      match d.makeOne p with
      | .ok d => .ok (missing, d)
      | .error .notFound => makeLowest above (p :: missing) d
      | .error cause =>
        if cause = .alreadyExists ∧ d.isDirectory p then .ok (missing, d) else .error cause

def makeEach : List Path → Disk → Except IoCause Unit × Disk
  | [], d => (.ok (), d)
  | p :: below, d =>
    match d.makeOne p with
    | .ok d => makeEach below d
    | .error cause =>
      if cause = .alreadyExists ∧ d.isDirectory p then makeEach below d else (.error cause, d)

def makeAll (path : Path) (d : Disk) : Except IoCause Unit × Disk :=
  match makeLowest (ancestors path.bytes.length path) [] d with
  | .ok (missing, d) => makeEach missing d
  | .error cause => (.error cause, d)

def createDirectory (path : Path) (d : Disk) : Except BuildError Unit × Disk :=
  match d.makeAll path with
  | (.ok _, d) => (.ok (), d)
  | (.error cause, d) => (.error (.io path cause), d)

def makeParent (path : Path) (d : Disk) : Except BuildError Unit × Disk :=
  match path.parent with
  | some above => if d.isDirectory above then (.ok (), d) else d.createDirectory above
  | none => (.ok (), d)

/-- Writes a file. The directory that it lies in is made if it is missing. -/
def write (path : Path) (text : String) (d : Disk) : Except BuildError Unit × Disk :=
  match d.makeParent path with
  | (.error e, d) => (.error e, d)
  | (.ok _, d) =>
    match d.writeFile path text with
    | .ok d => (.ok (), d)
    | .error cause => (.error (.io path cause), d)

def view (d : Disk) : Files := ⟨d.read, d.isFile, d.entries.length⟩

instance : FileSystem Disk where
  files := view
  isDirectory := isDirectory
  createDirectory := createDirectory
  write := write

end Disk

end ModuleBundler
