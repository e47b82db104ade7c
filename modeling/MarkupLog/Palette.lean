import MarkupLog.Color
import MarkupLog.Entries
import MarkupLog.Text.Quoted

/-!
# Palettes

A palette says which color each kind of line and each part of a progress line has. Emphasis is
always bright, so its entry is a base color. A palette is read from a table of entry names and color
names, and written back in full.
-/

namespace MarkupLog

structure Palette where
  info : Color := ⟨.green, false⟩
  warn : Color := ⟨.yellow, false⟩
  error : Color := ⟨.red, false⟩
  emphasis : BaseColor := .blue
  progressId : Color := ⟨.yellow, false⟩
  progressStatus : Color := ⟨.green, false⟩
  progressBar : Color := ⟨.cyan, false⟩
  deriving Repr, DecidableEq

inductive PaletteEntry
  | info
  | warn
  | error
  | emphasis
  | progressId
  | progressStatus
  | progressBar
  deriving Repr, DecidableEq

namespace PaletteEntry

/-- All entries, in the order in which a palette is written. -/
def all : List PaletteEntry :=
  [.info, .warn, .error, .emphasis, .progressId, .progressStatus, .progressBar]

def name : PaletteEntry → String
  | .info => "info"
  | .warn => "warn"
  | .error => "error"
  | .emphasis => "emphasis"
  | .progressId => "progress_id"
  | .progressStatus => "progress_status"
  | .progressBar => "progress_bar"

def ofName? (s : String) : Option PaletteEntry :=
  all.find? fun e => e.name = s

theorem ofName?_name (e : PaletteEntry) : ofName? e.name = some e := by
  cases e <;> decide

end PaletteEntry

inductive PaletteError
  | unknownEntry (name : String)
  | unknownColor (name : String)
  deriving Repr, DecidableEq

def PaletteError.message : PaletteError → String
  | .unknownEntry name => "Unknown palette entry: " ++ Text.quoted name
  | .unknownColor name => "Unknown color name: " ++ Text.quoted name

namespace Palette

/-- Sets one entry. Of a color given for emphasis only the base counts. -/
def set (p : Palette) (c : Color) : PaletteEntry → Palette
  | .info => { p with info := c }
  | .warn => { p with warn := c }
  | .error => { p with error := c }
  | .emphasis => { p with emphasis := c.base }
  | .progressId => { p with progressId := c }
  | .progressStatus => { p with progressStatus := c }
  | .progressBar => { p with progressBar := c }

def colorName (p : Palette) : PaletteEntry → String
  | .info => p.info.name
  | .warn => p.warn.name
  | .error => p.error.name
  | .emphasis => p.emphasis.name
  | .progressId => p.progressId.name
  | .progressStatus => p.progressStatus.name
  | .progressBar => p.progressBar.name

/-- Sets the entry of a name to the color of a name. The entry is looked up first. -/
def setNamed (p : Palette) (entry color : String) : Except PaletteError Palette :=
  match PaletteEntry.ofName? entry with
  | none => .error (.unknownEntry entry)
  | some e =>
    match Color.ofName? color with
    | none => .error (.unknownColor color)
    | some c => .ok (p.set c e)

/-- Sets the entries of a table in turn, up to the first that is wrong. -/
def setAll (p : Palette) : Entries String String → Except PaletteError Palette
  | [] => .ok p
  | (entry, color) :: rest =>
    match p.setNamed entry color with
    | .error e => .error e
    | .ok p => p.setAll rest

/-- The palette of a table: entries that the table does not name keep their defaults. -/
def ofEntries (t : Entries String String) : Except PaletteError Palette :=
  setAll {} t

def toEntries (p : Palette) : Entries String String :=
  PaletteEntry.all.map fun e => (e.name, p.colorName e)

end Palette

end MarkupLog
