import ModuleBundler.Text.Quoted
import ModuleBundler.Transform

/-!
What is to be built: the entries, how their modules are found and changed, and where the output
goes.
-/
namespace ModuleBundler

namespace Text

/-- Replaces all that follows the first `skip` characters: where the pattern starts, `by_` is put
and the pattern is skipped. An empty pattern starts before every character and at the end. -/
def replaceFrom (pattern by_ : List Char) : Nat → List Char → List Char
  | 0, [] => if pattern.isEmpty then by_ else []
  | _ + 1, [] => []
  | 0, c :: rest =>
    if pattern.isEmpty then by_ ++ c :: replaceFrom pattern by_ 0 rest
    else if pattern.isPrefixOf (c :: rest) then
      by_ ++ replaceFrom pattern by_ (pattern.length - 1) rest
    else c :: replaceFrom pattern by_ 0 rest
  | skip + 1, _ :: rest => replaceFrom pattern by_ skip rest

def replace (text pattern by_ : String) : String :=
  String.ofList (replaceFrom pattern.toList by_.toList 0 text.toList)

def contains (pattern : List Char) : List Char → Bool
  | [] => pattern.isEmpty
  | c :: rest => pattern.isPrefixOf (c :: rest) || contains pattern rest

end Text

/-- Where output goes. The placeholder in the template stands for the name of a chunk. -/
structure Output where
  directory : Path
  template : String

namespace Output

def placeholder : String := "[name]"

def fileFor (o : Output) (chunk : String) : String := Text.replace o.template placeholder chunk

def hasPlaceholder (o : Output) : Bool := Text.contains placeholder.toList o.template.toList

def default : Output := ⟨.ofString "dist", placeholder ++ ".js"⟩

end Output

/-- A configuration that a build can start from. -/
structure BuildConfig where
  /-- The directory that paths and the names of modules are relative to. -/
  context : Path
  entries : List (String × Path)
  extensions : List String
  rules : List Rule
  output : Output
  names_nodup : (entries.map Prod.fst).Nodup

namespace BuildConfig

def defaultEntryName : String := "main"

def defaultExtensions : List String := [".js", ".json"]

def new (context : Path) : BuildConfig :=
  ⟨context, [], defaultExtensions, [], .default, List.nodup_nil⟩

/-- Adds an entry. One with the same name is replaced, in its place. -/
def withEntry (c : BuildConfig) (name : String) (path : Path) : BuildConfig :=
  { c with
    entries := Keyed.put name path c.entries
    names_nodup := Keyed.nodup_put c.names_nodup }

/-- The directory that the context is taken from: the one that the process works in, if that can
be told. A context that is absolute does not ask for it. -/
def origin (c : BuildConfig) (current : Except IoCause Path) : Except BuildError Path :=
  if c.context.isAbsolute then .ok c.context
  else
    match current with
    | .ok cwd => .ok cwd
    | .error cause => .error (.io c.context cause)

def root (c : BuildConfig) (cwd : Path) : Path := (cwd.join c.context).normalize

def entryPaths (c : BuildConfig) (cwd : Path) : List (String × Path) :=
  c.entries.map fun e => (e.1, ((c.root cwd).join e.2).normalize)

def outputDirectory (c : BuildConfig) (cwd : Path) : Path :=
  ((c.root cwd).join c.output.directory).normalize

def listText (items : List String) : String := String.intercalate ", " items

/-- The configuration in one line. Of the rules only the number is given. -/
def summary (c : BuildConfig) : String :=
  let path (p : Path) := Text.visiblePath p.bytes
  "BuildConfig \x7b context: " ++ path c.context ++
    ", entries: \x7b" ++ listText (c.entries.map fun e => Text.visible e.1 ++ ": " ++ path e.2) ++
    "\x7d, extensions: [" ++ listText (c.extensions.map Text.visible) ++
    "], rules: " ++ toString c.rules.length ++
    ", output: OutputConfig \x7b path: " ++ path c.output.directory ++
    ", filename: " ++ Text.visible c.output.template ++ " \x7d \x7d"

end BuildConfig

end ModuleBundler
