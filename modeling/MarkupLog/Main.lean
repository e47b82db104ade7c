import MarkupLog.Cli.Commands

/-!
# The program

Gathers what a run can see, runs the command line, and writes what the run says. Of the files only
those are looked at that a run may read, and the input is read only when a command wants it.
-/

namespace MarkupLog.Cli

def variableNames : List String :=
  [Environment.levelVariable, "EMPHLOG_PREFIX", "EMPHLOG_COLOR", "EMPHLOG_VERBOSE",
    "EMPHLOG_BATCH_MODE", "FORCE_COLOR", "NO_COLOR"]

def locationsOf (start : Location) (names : List String) : List Location :=
  match names with
  | [] => []
  | name :: rest =>
    let place := if name = ".." then start.dropLast else start ++ [name]
    place :: locationsOf place rest

/-- The locations of the files that a run may read: the settings files above the current directory,
and the one that the command line names. -/
def wantedLocations (current : Location) (words : List String) : List Location :=
  let nearby := (Path.beginnings current).flatMap fun place =>
    [place, place ++ [Program.settingsFile], place ++ [Program.projectFile]]
  let named :=
    match parse programForms words with
    | .error _ => []
    | .ok p =>
      match (p.value? .config).map Path.ofText with
      | none => []
      | some path => locationsOf (if path.anchor = .current then current else []) path.names
  nearby ++ named

def wantsInput (files : FileSystem) (words : List String) : Bool :=
  match Invocation.read files words with
  | .ok ⟨_, some (.strip, operands)⟩ =>
    match readOperands operands with
    | .ok [] => true
    | _ => false
  | _ => false

/-! ### Gathering -/

def gatherEnvironment : IO Environment :=
  variableNames.filterMapM fun name => do
    return (← IO.getEnv name).map fun value => (name, value)

def lookUp (place : Location) : IO (Option FileEntry) := do
  let path := (← IO.currentDir) / (Path.ofNames place).text
  if ← path.isDir then return some .directory
  if ← path.pathExists then
    try
      return some (.file (← IO.FS.readBinFile path).toList)
    catch _ =>
      return some .unreadable
  return none

def gatherFiles (words : List String) : IO FileSystem := do
  let current := (Path.ofText (← IO.currentDir).toString).names
  let found ← (wantedLocations current words).filterMapM fun place => do
    return (← lookUp place).map fun entry => (place, entry)
  return { entries := Entries.ofPairs found, current }

/-- The bytes of a stream up to its end. -/
partial def readAll (stream : IO.FS.Stream) (sofar : ByteArray) : IO ByteArray := do
  let more ← stream.read 65536
  if more.isEmpty then return sofar else readAll stream (sofar ++ more)

def writeEvents (r : Run) : IO Unit := do
  let output ← IO.getStdout
  let errors ← IO.getStderr
  for event in r.events do
    output.putStr event.stdout
    errors.putStr (event.stderr r.reporter)
  output.flush

def start (words : List String) : IO UInt32 := do
  let files ← gatherFiles words
  let env ← gatherEnvironment
  let terminal ← (← IO.getStdout).isTty
  let input ← if wantsInput files words then readAll (← IO.getStdin) .empty else pure .empty
  let r := run ⟨files, env, .answers terminal, Utf8.decode input.toList⟩ words
  writeEvents r
  match r.ending with
  | .exit _ => pure ()
  | .unhandled failure => IO.eprintln failure.text
  return UInt32.ofNat r.exitCode.number

end MarkupLog.Cli

def main (words : List String) : IO UInt32 :=
  MarkupLog.Cli.start words
