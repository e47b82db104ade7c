import MarkupLog.Palette
import MarkupLog.Program
import MarkupLog.Settings.ColorMode
import MarkupLog.Value

/-!
# Settings

Settings are what a logger is built from. They are collected in a draft, which keeps the colors as
they were written and may hold names that denote nothing; freezing a draft checks its colors. A
frozen value can be turned into a draft again, which then names every color.
-/

namespace MarkupLog

structure Settings where
  lead : String := Program.defaultLead
  colorMode : ColorMode := .auto
  verbose : Option String := none
  batchMode : Bool := false
  palette : Palette := {}
  deriving Repr, DecidableEq

structure Draft where
  lead : String := Program.defaultLead
  colorMode : ColorMode := .auto
  verbose : Option String := none
  batchMode : Bool := false
  colors : Entries String String := []
  deriving Repr, DecidableEq

/-! ### Errors -/

/-- Why settings cannot be used. The place names the source of a value and its key. -/
inductive SettingsError
  | notString (place : String)
  | notBoolean (place : String)
  | notStringOrBoolean (place : String)
  | notColorTable (place : String)
  | notVerbosity (place : String)
  | unknownColorMode (place value : String)
  | unknownBoolean (place value : String)
  | badPalette (cause : PaletteError)
  deriving Repr, DecidableEq

def colorsPlace : String := "[colors]"

def SettingsError.message : SettingsError → String
  | .notString place => place ++ " must be a string"
  | .notBoolean place => place ++ " must be a boolean"
  | .notStringOrBoolean place => place ++ " must be a string or boolean"
  | .notColorTable place => place ++ " must map names to color strings"
  | .notVerbosity place => place ++ ": expected a string, boolean or list of strings"
  | .unknownColorMode place value =>
    place ++ ": expected one of " ++ Text.join ", " (ColorMode.all.map ColorMode.name) ++ ", got "
      ++ Text.quoted value
  | .unknownBoolean place value => place ++ ": expected a boolean, got " ++ Text.quoted value
  | .badPalette cause => colorsPlace ++ ": " ++ cause.message

/-! ### Freezing and thawing -/

/-- The settings of a draft, if all its colors are known. -/
def Draft.freeze (d : Draft) : Except SettingsError Settings :=
  match Palette.ofEntries d.colors with
  | .error e => .error (.badPalette e)
  | .ok palette =>
    .ok { lead := d.lead
          colorMode := d.colorMode
          verbose := d.verbose
          batchMode := d.batchMode
          palette }

def Settings.thaw (s : Settings) : Draft :=
  { lead := s.lead
    colorMode := s.colorMode
    verbose := s.verbose
    batchMode := s.batchMode
    colors := s.palette.toEntries }

end MarkupLog
