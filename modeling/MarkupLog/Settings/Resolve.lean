import MarkupLog.Settings.Discovery

/-!
# Resolving settings

The settings of a run come from three layers: the defaults, a settings file, and the environment.
The file is the one that is asked for, or else the one that is found for a directory, which is the
current one unless another is named.
-/

namespace MarkupLog

namespace Settings

structure Request where
  file : Option Path := none
  start : Option Path := none
  useEnvironment : Bool := true

/-- The settings file to use, if there is one. -/
def chooseFile (fs : FileSystem) (r : Request) : Noted (Except Utf8.Fault (Option Path)) :=
  match r.file with
  | some path => pure (.ok (some path))
  | none => SettingsFile.discover fs (r.start.getD fs.currentPath)

/-- A draft with the settings of the file, if there is one. -/
def withFile (fs : FileSystem) (file : Option Path) : Noted (Except ResolveError Draft) :=
  match file with
  | none => pure (.ok {})
  | some path => SettingsFile.mergeFile fs path {}

/-- The settings of a draft once the environment has been applied to it, if it is to be. -/
def finish (env : Environment) (useEnvironment : Bool) (d : Draft) : Except ResolveError Settings :=
  let (d, error) := if useEnvironment then d.mergeEnvironment env else (d, none)
  match error with
  | some e => .error (.settings e)
  | none => d.freeze.mapError .settings

def resolve (fs : FileSystem) (env : Environment) (r : Request) :
    Noted (Except ResolveError Settings) := do
  match ← chooseFile fs r with
  | .error fault => pure (.error (.undecodable fault))
  | .ok file =>
    match ← withFile fs file with
    | .error e => pure (.error e)
    | .ok d => pure (finish env r.useEnvironment d)

end Settings

end MarkupLog
