import ModuleBundler.FileSystem

/-!
Finding the file that a module means when it names a dependency. The name is tried as it stands,
then with each of a list of extensions behind it.
-/
namespace ModuleBundler

/-- The endings that are tried, in their order. -/
structure Resolver where
  probes : List String

namespace Resolver

/-- Adds an ending that is neither empty nor there already. -/
def addProbe (probes : List String) (extension : String) : List String :=
  if extension.isEmpty || probes.contains extension then probes else probes ++ [extension]

def ofExtensions (extensions : List String) : Resolver := ⟨extensions.foldl addProbe [""]⟩

/-- The path that a specifier means from a directory, without an ending. -/
def candidate (specifier : String) (directory : Path) : Path :=
  (directory.join (.ofString specifier)).normalize

def withEnding (path : Path) (ending : String) : Path := ⟨path.bytes ++ Utf8.encode ending.toList⟩

def attempts (r : Resolver) (specifier : String) (directory : Path) : List Path :=
  r.probes.map (withEnding (candidate specifier directory))

/-- The first of the paths that is a file, and the paths up to it. -/
def firstFile (isFile : Path → Bool) : List Path → Option Path × List Path
  | [] => (none, [])
  | p :: more =>
    if isFile p then (some p, [p])
    else
      let (found, tried) := firstFile isFile more
      (found, p :: tried)

/-- The file that a specifier means from a directory, and the paths that were tried for it. -/
def resolve (r : Resolver) (isFile : Path → Bool) (specifier : String) (directory : Path) :
    Except BuildError Path × List Path :=
  match firstFile isFile (r.attempts specifier directory) with
  | (some path, tried) => (.ok path, tried)
  | (none, tried) => (.error (.resolution specifier directory), tried)

end Resolver

end ModuleBundler
