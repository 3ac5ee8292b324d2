/-!
Which variant of the language a source text is written in.
-/
namespace ModuleBundler.Script

structure Dialect where
  /-- Types and the other declarations of the typed variant are read. -/
  typed : Bool
  elements : Bool
  /-- The text is a module: `await` is an operator at its top, and `<!--` starts no comment. -/
  isModule : Bool
  ambient : Bool
deriving DecidableEq

namespace Dialect

def plain : Dialect := ⟨false, false, true, false⟩

def extension? (fileName : List Char) : Option (List Char) :=
  match fileName.reverse.span (· != '.') with
  | (_, []) => none
  | (_, ['.']) => none
  | (ext, _ :: _) => some ext.reverse

/-- The dialect that a file name announces by its extension, letter case included. A declaration
file is told by what stands before the extension. -/
def ofFileName (fileName : List Char) : Dialect :=
  match (extension? fileName).map String.ofList with
  | some "cjs" => ⟨false, false, false, false⟩
  | some "jsx" => ⟨false, true, true, false⟩
  | some "ts" | some "mts" => ⟨true, false, true, declares⟩
  | some "cts" => ⟨true, false, false, declares⟩
  | some "tsx" => ⟨true, true, true, false⟩
  | _ => plain
where
  declares : Bool :=
    let stem := (fileName.reverse.dropWhile (· != '.')).drop 1
    (stem.takeWhile (· != '.')).reverse == ['d'] && stem.contains '.'

end Dialect

end ModuleBundler.Script
