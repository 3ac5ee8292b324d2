import ModuleBundler.CommandLine

/-!
The program. A command is performed on a copy of the disk that holds the places it looks at; what
it changes there is then written back.
-/
namespace ModuleBundler.Main

def nameOf (place : List (List UInt8)) : String :=
  "/" ++ (Path.mk (Path.joinSegments place)).text

def contentAt (place : List (List UInt8)) : IO (Option Content) := do
  try
    return some (.file (← IO.FS.readBinFile (nameOf place)).data.toList)
  catch
    | .inappropriateType .. => return some .directory
    | _ => return none

def copyPlace (d : Disk) (place : List (List UInt8)) : IO Disk := do
  if d.content? place.dropLast ≠ some .directory then return d
  match ← contentAt place with
  | some content => return d.put place content
  | none => return d

/-- Performs a command on a copy of the disk, until the copy holds all that was looked at. The copy
as it was and as the command left it. -/
partial def settle (command : Command) (copied : List (List (List UInt8))) (d : Disk) :
    IO (Command.Outcome × Disk × Disk) := do
  let (outcome, after) := command.perform d
  let places := (outcome.looked.flatMap d.places).eraseDups.filter fun p => !copied.contains p
  if places.isEmpty then return (outcome, d, after)
  let d ← places.foldlM copyPlace d
  settle command (copied ++ places) d

def writeBack (before after : Disk) : IO Unit :=
  after.entries.forM fun (place, content) => do
    if before.content? place ≠ some content then
      match content with
      | .directory => IO.FS.createDir (nameOf place)
      | .file bytes => IO.FS.writeBinFile (nameOf place) ⟨bytes.toArray⟩

def tell (elapsed : String) (e : Log.Event) : IO Unit :=
  (e.lines elapsed).forM fun (level, line) =>
    if level = .trace ∨ level = .debug then pure () else IO.eprintln line

def report (elapsed : String) (outcome : Command.Outcome) : IO UInt32 := do
  outcome.events.forM (tell elapsed)
  match outcome.result with
  | .ok lines => lines.forM (fun line => IO.println line)
  | .error e => IO.eprintln e.detailed
  return outcome.exitCode.toUInt32

def run (command : Command) : IO UInt32 := do
  let start ← IO.monoMsNow
  let elapsed : IO String := return toString ((← IO.monoMsNow) - start) ++ "ms"
  match ← IO.currentDir.toBaseIO with
  | .error e => report (← elapsed) (command.performNowhere (.other (toString e)))
  | .ok cwd =>
    let (outcome, before, after) ← settle command [] ⟨[], .ofString cwd.toString⟩
    writeBack before after
    report (← elapsed) outcome

end ModuleBundler.Main

/-- Runs the command that the arguments ask for. Status 2 tells that they are not used as they
should be. -/
def main (arguments : List String) : IO UInt32 :=
  match ModuleBundler.Command.parse arguments with
  | some command => ModuleBundler.Main.run command
  | none => do
    ModuleBundler.Command.usage.forM (fun line => IO.eprintln line)
    return 2
