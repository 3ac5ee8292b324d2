import ModuleBundler.Error

/-!
What a build needs of a file system. Building a module graph only looks at it (`Files`); writing
the output changes it (`FileSystem`).
-/
namespace ModuleBundler

structure Files where
  read : Path → Except IoCause String
  /-- Whether a path names a file. A directory is none. -/
  isFile : Path → Bool
  count : Nat

/-- Stores of files, with the operations that read and change them. An operation that fails may
have done a part of its work. -/
class FileSystem (σ : Type) where
  files : σ → Files
  isDirectory : σ → Path → Bool
  createDirectory : Path → σ → Except BuildError Unit × σ
  write : Path → String → σ → Except BuildError Unit × σ

def Files.readModule (files : Files) (path : Path) : Except BuildError String :=
  match files.read path with
  | .ok text => .ok text
  | .error cause => .error (.io path cause)

end ModuleBundler
