import ModuleBundler.FileSystem
import ModuleBundler.Keyed

/-!
A file system in memory: a map from the components of paths to texts, and the directories that
were made. A directory is there as well when a file lies below it.
-/
namespace ModuleBundler

structure Memory where
  files : List (List Component × String)
  directories : List (List Component)

namespace Memory

def empty : Memory := ⟨[], []⟩

def insert (path : Path) (text : String) (m : Memory) : Memory :=
  { m with files := Keyed.put path.components text m.files }

def ofList (files : List (Path × String)) : Memory :=
  files.foldl (fun m f => m.insert f.1 f.2) empty

def get? (m : Memory) (path : Path) : Option String := Keyed.get? path.components m.files

theorem get?_insert (m : Memory) (path other : Path) (text : String) :
    (m.insert path text).get? other =
      if other.components = path.components then some text else m.get? other :=
  Keyed.get?_put ..

def fileCount (m : Memory) : Nat := m.files.length

def read (m : Memory) (path : Path) : Except IoCause String :=
  match m.get? path with
  | some text => .ok text
  | none => .error .noSuchFile

def fileExists (m : Memory) (path : Path) : Bool := (m.get? path).isSome

def isAbove (above below : List Component) : Bool :=
  above.isPrefixOf below && above ≠ below

def directoryExists (m : Memory) (path : Path) : Bool :=
  m.directories.contains path.components || m.files.any fun f => isAbove path.components f.1

def createDirectory (path : Path) (m : Memory) : Memory :=
  { m with directories := Keyed.addNew path.components m.directories }

@[simp] theorem get?_createDirectory (m : Memory) (path other : Path) :
    (m.createDirectory path).get? other = m.get? other := rfl

def view (m : Memory) : Files := ⟨m.read, m.fileExists, m.fileCount⟩

instance : FileSystem Memory where
  files := view
  isDirectory := directoryExists
  createDirectory path m := (.ok (), m.createDirectory path)
  write path text m := (.ok (), m.insert path text)

end Memory

end ModuleBundler
