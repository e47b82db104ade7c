import MarkupLog.Diagnostics.Record
import MarkupLog.Settings.Basic

/-!
# Layers of settings

A draft takes settings from two kinds of layers: tables, as a settings file holds them, and the
environment. Each layer is applied key by key in a fixed order and stops at the first value that is
wrong, so a draft keeps what came before it. Keys that are no settings are noted and ignored.
-/

namespace MarkupLog

abbrev SettingsTable := Entries String Value

/-! ### Values -/

def trueWords : List String := ["1", "true", "yes", "on"]

def falseWords : List String := ["0", "false", "no", "off"]

def readBoolean (place value : String) : Except SettingsError Bool :=
  let key := Text.lower (Text.trim value)
  if key ∈ trueWords then .ok true
  else if key ∈ falseWords then .ok false
  else .error (.unknownBoolean place value)

def readColorMode (place value : String) : Except SettingsError ColorMode :=
  match ColorMode.ofName? value with
  | some mode => .ok mode
  | none => .error (.unknownColorMode place value)

/-- The strings of a list, if all its items are strings. -/
def stringItems? : List Value → Option (List String)
  | [] => some []
  | .str s :: rest => (stringItems? rest).map (s :: ·)
  | _ :: _ => none

/-- A verbosity specification from a value. A list of groups becomes a comma-separated text, and the
empty list the word for no group. -/
def readVerbose (place : String) : Value → Except SettingsError (Option String)
  | .none => .ok none
  | .str s => .ok (some s)
  | .bool b => .ok (some (if b then "true" else "false"))
  | .list items =>
    match stringItems? items with
    | none => .error (.notVerbosity place)
    | some [] => .ok (some "false")
    | some names => .ok (some (Text.join "," names))
  | _ => .error (.notVerbosity place)

/-- The entries of a table, if all its values are strings. -/
def stringEntries? : List (String × Value) → Option (Entries String String)
  | [] => some []
  | (k, .str s) :: rest => (stringEntries? rest).map ((k, s) :: ·)
  | _ :: _ => none

/-! ### Steps -/

abbrev LayerStep := Draft → Except SettingsError Draft

/-- The steps in turn, up to the first that fails; the draft is what the steps before it made. -/
def applySteps : List LayerStep → Draft → Draft × Option SettingsError
  | [], d => (d, none)
  | step :: rest, d =>
    match step d with
    | .ok d => applySteps rest d
    | .error e => (d, some e)

/-- A step that sets what a value says, if there is one. -/
def stepFrom {α : Type} (value? : Option α) (use : α → LayerStep) : LayerStep := fun d =>
  match value? with
  | none => .ok d
  | some v => use v d

def useLead (place : String) : Value → LayerStep
  | .str s, d => .ok { d with lead := s }
  | _, _ => .error (.notString place)

/-- Sets the color mode; a truth value means always or never. -/
def useColor (place : String) : Value → LayerStep
  | .bool b, d => .ok { d with colorMode := if b then .always else .never }
  | .str s, d => (readColorMode place s).map fun mode => { d with colorMode := mode }
  | _, _ => .error (.notStringOrBoolean place)

def useVerbose (place : String) (v : Value) : LayerStep := fun d =>
  (readVerbose place v).map fun verbose => { d with verbose }

def useBatchMode (place : String) : Value → LayerStep
  | .bool b, d => .ok { d with batchMode := b }
  | _, _ => .error (.notBoolean place)

def useColors (place : String) : Value → LayerStep
  | .table entries, d =>
    match stringEntries? entries with
    | some colors => .ok { d with colors := d.colors.putAll colors }
    | none => .error (.notColorTable place)
  | _, _ => .error (.notColorTable place)

/-! ### Tables -/

def settingsKeys : List String := ["prefix", "color", "verbose", "batch_mode", "colors"]

def keyPlace (source key : String) : String :=
  source ++ ": '" ++ key ++ "'"

/-- The steps of a table, in their order. -/
def tableSteps (source : String) (t : SettingsTable) : List LayerStep :=
  [stepFrom (t.get? "prefix") (useLead (keyPlace source "prefix")),
    stepFrom (t.get? "color") (useColor (keyPlace source "color")),
    stepFrom (t.get? "verbose") (useVerbose (keyPlace source "verbose")),
    stepFrom (t.get? "batch_mode") (useBatchMode (keyPlace source "batch_mode")),
    stepFrom (t.get? "colors") (useColors (source ++ ": " ++ colorsPlace))]

def settingsSource : String := "emphlog.config.model"

def unknownKeyRecords (source : String) (t : SettingsTable) : List Record :=
  (t.keys.filter fun k => k ∉ settingsKeys).map fun k =>
    ⟨Level.warning, settingsSource, source ++ ": ignoring unknown key " ++ Text.quoted k⟩

def Draft.merge (d : Draft) (source : String) (t : SettingsTable) :
    Noted (Draft × Option SettingsError) :=
  ⟨applySteps (tableSteps source t) d, unknownKeyRecords source t⟩

/-! ### The environment -/

/-- The steps of an environment, in their order. The color and the batch mode count only when they
are not empty. -/
def environmentSteps (env : Environment) : List LayerStep :=
  [stepFrom (env.get? "EMPHLOG_PREFIX") fun s d => .ok { d with lead := s },
    stepFrom (env.nonempty? "EMPHLOG_COLOR") fun s d =>
      (readColorMode "EMPHLOG_COLOR" s).map fun mode => { d with colorMode := mode },
    stepFrom (env.get? "EMPHLOG_VERBOSE") fun s d => .ok { d with verbose := some s },
    stepFrom (env.nonempty? "EMPHLOG_BATCH_MODE") fun s d =>
      (readBoolean "EMPHLOG_BATCH_MODE" s).map fun b => { d with batchMode := b }]

def Draft.mergeEnvironment (d : Draft) (env : Environment) : Draft × Option SettingsError :=
  applySteps (environmentSteps env) d

end MarkupLog
