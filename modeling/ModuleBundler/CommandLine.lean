import ModuleBundler.Compiler
import ModuleBundler.Config.Merge
import ModuleBundler.FileSystem.Disk
import ModuleBundler.Hooks.Stats

/-!
The commands of the program: what may be asked for, and what is done about it on a disk.
-/
namespace ModuleBundler

structure BuildOptions where
  /-- The configuration file, if it is not looked for. -/
  config : Option Path
  overrides : Overrides
  json : Bool
  stats : Bool

inductive Command where
  | build (options : BuildOptions)
  | init
  | info
  | help

namespace BuildOptions

def none : BuildOptions := ⟨.none, .none, false, false⟩

end BuildOptions

namespace Command

/-- Options of a build that take a value. -/
inductive Valued where
  | config | context | entry | directory | template
deriving DecidableEq

def valued? (name : List Char) : Option Valued :=
  match String.ofList name with
  | "config" => some .config
  | "context" => some .context
  | "entry" => some .entry
  | "outdir" => some .directory
  | "filename" => some .template
  | _ => none

def shortValued? : Char → Option Valued
  | 'c' => some .config
  | 'e' => some .entry
  | 'o' => some .directory
  | 'f' => some .template
  | _ => none

def once {α : Type} (old : Option α) (new : α) : Option (Option α) :=
  if old.isNone then some (some new) else none

def pathValue (value : List Char) : Option Path :=
  if value.isEmpty then none else some ⟨Utf8.encode value⟩

/-- Gives an option its value. No option is given twice. -/
def assign (o : BuildOptions) (value : List Char) : Valued → Option BuildOptions
  | .config => do return { o with config := ← once o.config (← pathValue value) }
  | .context => do
    return { o with overrides.context := ← once o.overrides.context (← pathValue value) }
  | .entry => do
    return { o with overrides.entry := ← once o.overrides.entry (String.ofList value) }
  | .directory => do
    return { o with overrides.directory := ← once o.overrides.directory (String.ofList value) }
  | .template => do
    return { o with overrides.template := ← once o.overrides.template (String.ofList value) }

def switch (o : BuildOptions) (name : List Char) : Option BuildOptions :=
  match String.ofList name with
  | "json" => if o.json then none else some { o with json := true }
  | "stats" => if o.stats then none else some { o with stats := true }
  | _ => none

def isValue (argument : List Char) : Bool :=
  match argument with
  | '-' :: _ :: _ => false
  | _ => true

/-- What an argument of a build comes to. -/
inductive Step where
  | help
  | last
  | set (options : BuildOptions)
  /-- The next argument is the value of an option. -/
  | expect (option : Valued)

def step (argument : List Char) (o : BuildOptions) : Option Step :=
  match argument with
  | ['-', '-'] => some .last
  | '-' :: '-' :: long =>
    match valued? (long.takeWhile (· != '=')), long.dropWhile (· != '=') with
    | some option, _ :: value => (assign o value option).map .set
    | some option, [] => some (.expect option)
    | none, _ => if long = "help".toList then some .help else (switch o long).map .set
  | '-' :: 'h' :: _ => some .help
  | '-' :: short :: attached =>
    match shortValued? short, attached with
    | some option, [] => some (.expect option)
    | some option, c :: rest => (assign o (if c = '=' then rest else c :: rest) option).map .set
    | none, _ => none
  | _ => none

/-- The arguments of a build. An option whose value is the next argument is `pending`. -/
def buildOptions : List (List Char) → Option Valued → BuildOptions → Option Command
  | [], none, o => some (.build o)
  | [], some _, _ => none
  | argument :: more, some option, o =>
    if isValue argument then
      match assign o argument option with
      | some o => buildOptions more none o
      | none => none
    else none
  | argument :: more, none, o =>
    match step argument o with
    | none => none
    | some .help => some .help
    | some .last => if more.isEmpty then some (.build o) else none
    | some (.set o) => buildOptions more none o
    | some (.expect option) => buildOptions more (some option) o

def alone (command : Command) (arguments : List (List Char)) : Option Command :=
  match arguments with
  | [] => some command
  | first :: more =>
    if first = "--help".toList || (first.take 2 == ['-', 'h']) then some .help
    else if first = ['-', '-'] && more.isEmpty then some command
    else none

def parse (arguments : List String) : Option Command :=
  match arguments with
  | [] => none
  | name :: more =>
    let more := more.map String.toList
    match name with
    | "build" => buildOptions more none .none
    | "init" => alone .init more
    | "info" => alone .info more
    | "help" =>
      match more.map String.ofList with
      | [] | ["build"] | ["init"] | ["info"] | ["help"] => some .help
      | _ => none
    | _ => if name = "--help" || name = "-h" then some .help else none

def usage : List String := [
  "Usage: tinypack <COMMAND>",
  "",
  "Commands:",
  "  build  Bundle every entry into its own chunk",
  "  init   Print an example config file",
  "  info   Show bundler information",
  "  help   Print this message",
  "",
  "Options of build:",
  "  -c, --config <FILE>       Config file",
  "      --context <DIR>       Root that module ids are relative to",
  "  -e, --entry <FILE>        Single entry file, bundled as chunk `main`",
  "  -o, --outdir <DIR>        Output directory",
  "  -f, --filename <NAME>     Output file name template, `[name]` is the chunk name",
  "      --json                Print the build report as JSON",
  "      --stats               Log phase timings"]

def information : List String := [
  "tinypack 0.1.0",
  "  Parser: oxc",
  "  Module format: CommonJS require()",
  "  Built-in loaders: json, banner"]

/-- What has become of a command: the lines it prints or the error it ended with, what happened on
the way, and the paths that were asked about. -/
structure Outcome where
  result : Except BuildError (List String)
  events : List Log.Event
  looked : List Path

namespace Outcome

def exitCode (o : Outcome) : Nat :=
  match o.result with
  | .ok _ => 0
  | .error _ => 1

end Outcome

def configuration (options : BuildOptions) (d : Disk) :
    Except BuildError (Option ConfigFile) × List Log.Event × Path × Path :=
  match options.config with
  | some path =>
    let (result, events) := ConfigFile.load d.view path
    let base := match path.parent with
      | some above => if above.bytes.isEmpty then d.cwd else d.cwd.join above
      | none => d.cwd
    (result.map some, events, base, path)
  | none =>
    let (result, events) := ConfigFile.find d.view d.cwd
    (result, events, d.cwd, ConfigFile.pathIn d.cwd)

def runBuild (options : BuildOptions) (config : BuildConfig) (d : Disk) :
    Except BuildError (List String) × RunState Disk Stats :=
  let compiler := Compiler.new config (.ok d.cwd)
  let compiler :=
    if options.stats then compiler.withPlugin (Stats.plugin true id fun s _ => s) else compiler
  let (result, state) := compiler.run d Stats.idle
  let printed (report : Report) : Except BuildError (List String) :=
    if options.json then report.text.map fun text => [text] else .ok []
  (result.bind printed, state)

def buildOn (options : BuildOptions) (d : Disk) : Outcome × Disk :=
  let (found, events, base, path) := configuration options d
  match found with
  | .error e => (⟨.error e, events, [path]⟩, d)
  | .ok file =>
    let loaders := Transform.builtin (file.bind ConfigFile.banner)
    let (merged, warnings) :=
      (file.getD .empty).merge options.overrides base loaders
    match merged with
    | .error e => (⟨.error e, events ++ warnings, [path]⟩, d)
    | .ok config =>
      let (result, state) := runBuild options config d
      (⟨result, events ++ warnings ++ state.events, path :: state.looked⟩, state.store)

def perform (command : Command) (d : Disk) : Outcome × Disk :=
  let say (lines : List String) : Outcome × Disk := (⟨.ok lines, [], []⟩, d)
  match command with
  | .build options => buildOn options d
  | .init => say [ConfigFile.exampleText]
  | .info => say information
  | .help => say usage

/-- What becomes of a command in a process that has no directory to work in. Only a build asks for
it. -/
def performNowhere (command : Command) (cause : IoCause) : Outcome :=
  match command with
  | .build _ => ⟨.error (.io (.ofString ".") cause), [], []⟩
  | _ => (command.perform ⟨[], .ofString "."⟩).1

end Command

end ModuleBundler
