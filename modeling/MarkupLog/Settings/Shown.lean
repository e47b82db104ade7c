import MarkupLog.Settings.Basic

/-!
# Showing settings

The text of settings in diagnostics: every setting with its value, in a fixed order.
-/

namespace MarkupLog

def memberText (family name : String) : String :=
  "<" ++ family ++ "." ++ Text.upper name ++ ": " ++ Text.quoted name ++ ">"

def BaseColor.shown (b : BaseColor) : String :=
  memberText "BaseColor" b.name

def ColorMode.shown (m : ColorMode) : String :=
  memberText "ColorMode" m.name

def shownFlag (b : Bool) : String :=
  Value.boolText b

def fieldsText (family : String) (fields : List (String × String)) : String :=
  family ++ "(" ++ Text.join ", " (fields.map fun (name, text) => name ++ "=" ++ text) ++ ")"

def Color.shown (c : Color) : String :=
  fieldsText "ColorSpec" [("base", c.base.shown), ("bright", shownFlag c.bright)]

def Palette.shown (p : Palette) : String :=
  fieldsText "Palette"
    [("info", p.info.shown), ("warn", p.warn.shown), ("error", p.error.shown),
      ("emphasis", p.emphasis.shown), ("progress_id", p.progressId.shown),
      ("progress_status", p.progressStatus.shown), ("progress_bar", p.progressBar.shown)]

def Settings.shown (s : Settings) : String :=
  fieldsText "LoggerConfig"
    [("prefix", Text.quoted s.lead), ("color_mode", s.colorMode.shown),
      ("verbose", (s.verbose.map Text.quoted).getD "None"), ("batch_mode", shownFlag s.batchMode),
      ("palette", s.palette.shown)]

end MarkupLog
