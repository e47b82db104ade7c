import MarkupLog.Files.FileSystem
import MarkupLog.Settings.Layers
import MarkupLog.Text.LineEnds
import MarkupLog.Text.Utf8
import MarkupLog.Toml.Document

/-!
# Settings files

A settings file of the program's own holds settings at its top level; in a settings file that is
shared with other programs they stand in a table of their own. A file that cannot be read, or whose
text is no settings document, is noted as an error and counts as empty; bytes that are no text are a
failure.
-/

namespace MarkupLog

/-- Why settings cannot be had: a file holds no text, or a setting is wrong. -/
inductive ResolveError
  | undecodable (fault : Utf8.Fault)
  | settings (error : SettingsError)
  deriving Repr, DecidableEq

/-- What stands for the account of what is wrong in a settings text. -/
def detailPlace : String := "<detail>"

def filesSource : String := "emphlog.config.io"

namespace SettingsFile

def unreadableRecord (path : Path) (e : AccessError) : Record :=
  ⟨Level.error, filesSource,
    "Error loading TOML from " ++ path.text ++ ": " ++ e.message path.text⟩

def malformedRecord (path : Path) : Record :=
  ⟨Level.error, filesSource, "Error decoding TOML from " ++ path.text ++ ": " ++ detailPlace⟩

def absentRecord (path : Path) : Record :=
  ⟨Level.debug, filesSource, "No EmphLog settings in " ++ path.text⟩

def parse (path : Path) (bytes : List UInt8) : Noted (Except Utf8.Fault SettingsTable) :=
  match Utf8.decode bytes with
  | .error fault => ⟨.error fault, []⟩
  | .ok text =>
    match Toml.read (Text.plainLines text) with
    | some table => ⟨.ok table, []⟩
    | none => ⟨.ok [], [malformedRecord path]⟩

def load (fs : FileSystem) (path : Path) : Noted (Except Utf8.Fault SettingsTable) :=
  match fs.read path with
  | .error e => ⟨.ok [], [unreadableRecord path e]⟩
  | .ok bytes => parse path bytes

def subtable? (table : SettingsTable) : List String → Option SettingsTable
  | [] => some table
  | key :: rest =>
    match table.get? key with
    | some (.table entries) => subtable? entries rest
    | _ => none

def settings? (path : Path) (table : SettingsTable) : Option SettingsTable :=
  if path.name = Program.projectFile then subtable? table Program.projectSection
  else some table

def mergeFound (d : Draft) (path : Path) (found : Option SettingsTable) :
    Noted (Except ResolveError Draft) :=
  match found with
  | none => ⟨.ok d, [absentRecord path]⟩
  | some table =>
    match d.merge path.text table with
    | ⟨(d, none), records⟩ => ⟨.ok d, records⟩
    | ⟨(_, some e), records⟩ => ⟨.error (.settings e), records⟩

def mergeFile (fs : FileSystem) (path : Path) (d : Draft) : Noted (Except ResolveError Draft) := do
  match ← load fs path with
  | .error fault => pure (.error (.undecodable fault))
  | .ok table => mergeFound d path (settings? path table)

end SettingsFile

end MarkupLog
