import MarkupLog.Settings.Source

/-!
# Finding settings files

The settings file for a directory is the nearest one: in the directory itself or in one above it. In
each directory the program's own file comes first, and a shared file counts only if it has settings
for the program.
-/

namespace MarkupLog

namespace SettingsFile

def foundRecord (path : Path) : Record :=
  ⟨Level.debug, filesSource, "Found config " ++ path.text⟩

def sharedCounts (fs : FileSystem) (path : Path) : Noted (Except Utf8.Fault Bool) :=
  if fs.isFile path then do
    match ← load fs path with
    | .error fault => pure (.error fault)
    | .ok table => pure (.ok ((settings? path table).any fun found => !found.isEmpty))
  else pure (.ok false)

/-- The settings file in a directory, if there is one. -/
def inDirectory (fs : FileSystem) (directory : Path) : Noted (Except Utf8.Fault (Option Path)) :=
  let own := directory.child Program.settingsFile
  let shared := directory.child Program.projectFile
  if fs.isFile own then do
    Noted.note (foundRecord own)
    pure (.ok (some own))
  else do
    match ← sharedCounts fs shared with
    | .error fault => pure (.error fault)
    | .ok false => pure (.ok none)
    | .ok true => do
      Noted.note (foundRecord shared)
      pure (.ok (some shared))

/-- The settings file in the first of some directories that has one. -/
def inFirst (fs : FileSystem) : List Path → Noted (Except Utf8.Fault (Option Path))
  | [] => pure (.ok none)
  | directory :: rest => do
    match ← inDirectory fs directory with
    | .ok none => inFirst fs rest
    | decided => pure decided

def discover (fs : FileSystem) (start : Path) : Noted (Except Utf8.Fault (Option Path)) :=
  inFirst fs start.upward

end SettingsFile

end MarkupLog
