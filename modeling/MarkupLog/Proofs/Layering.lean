import Mathlib.Control.Monad.Basic
import MarkupLog.Cli.Commands
import MarkupLog.Proofs.Layers
import MarkupLog.Proofs.Palettes

/-!
# The settings of a run

A run has up to three layers of settings over the defaults: the table of its settings file, the
environment, and its command line. There are settings exactly when all values of the table and of
the environment are valid, also those that a higher layer replaces. Each setting then comes from the
highest layer that sets it, whatever the layers say about the others.
-/

namespace MarkupLog

/-! ### The layers below the command line -/

/-- The colors of a table, each name once. -/
def SettingsTable.colors (t : SettingsTable) : Entries String String :=
  .ofPairs t.layer.colors

theorem Draft.freeze_of_fits {d : Draft} (hkeys : d.colors.keys.Nodup)
    (h : ∀ pair ∈ d.colors, Palette.Fits pair) :
    ∃ palette : Palette, d.freeze = .ok { d with palette } ∧
      ∀ e, palette.color e = (Palette.named? d.colors e).getD (({} : Palette).color e) := by
  obtain ⟨palette, hpalette, hcolor⟩ := Palette.setAll_of_fits {} hkeys h
  refine ⟨palette, ?_, hcolor⟩
  unfold freeze Palette.ofEntries
  rw [hpalette]

theorem Draft.freeze_of_not_fits {d : Draft} (h : ¬∀ pair ∈ d.colors, Palette.Fits pair) :
    ∃ e, d.freeze = .error e := by
  obtain ⟨e, he⟩ := Palette.setAll_of_not_fits {} h
  refine ⟨.badPalette e, ?_⟩
  unfold freeze Palette.ofEntries
  rw [he]

namespace Settings

def withEnvironment (env : Environment) (d : Draft) : Except SettingsError Settings :=
  match d.mergeEnvironment env with
  | (_, some e) => .error e
  | (d, none) => d.freeze

def ofTable (place : String) (table : Option SettingsTable) : Except SettingsError Draft :=
  match (({} : Draft).merge place (table.getD [])).value with
  | (_, some e) => .error e
  | (d, none) => .ok d

/-- The settings of a new draft that takes a table, if there is one, and then an environment. -/
def ofLayers (place : String) (table : Option SettingsTable) (env : Environment) :
    Except SettingsError Settings :=
  (ofTable place table).bind (withEnvironment env)

structure Valid (t : SettingsTable) (env : Environment) : Prop where
  table : t.Valid
  colors : ∀ pair ∈ t.colors, Palette.Fits pair
  environment : env.Valid

/-- The settings that layers give, from the highest layer to the lowest, and colors. -/
structure Layered (layers : List Layer) (colors : Entries String String) (s : Settings) : Prop where
  lead : s.lead = (layers.findSome? Layer.lead).getD Program.defaultLead
  colorMode : s.colorMode = (layers.findSome? Layer.colorMode).getD .auto
  verbose : s.verbose = (layers.findSome? Layer.verbose).getD none
  batchMode : s.batchMode = (layers.findSome? Layer.batchMode).getD false
  palette : ∀ e, s.palette.color e = (Palette.named? colors e).getD (({} : Palette).color e)

variable {place : String} {table : Option SettingsTable} {env : Environment}

theorem findSome?_cons_getD {α β : Type} (f : α → Option β) (a : α) (rest : List α) (b : β) :
    ((a :: rest).findSome? f).getD b = (f a).getD ((rest.findSome? f).getD b) := by
  rw [List.findSome?_cons]
  cases f a <;> rfl

theorem withEnvironment_of_valid (d : Draft) (h : env.Valid) :
    withEnvironment env d = (d.under env.layer).freeze := by
  unfold withEnvironment
  rw [d.mergeEnvironment_of_valid h]

theorem withEnvironment_of_not_valid (d : Draft) (h : ¬env.Valid) :
    ∃ e, withEnvironment env d = .error e := by
  obtain ⟨kept, e, he⟩ := d.mergeEnvironment_of_not_valid h
  unfold withEnvironment
  rw [he]
  exact ⟨e, rfl⟩

theorem ofLayers_of_valid_table (place : String) (env : Environment) (h : (table.getD []).Valid) :
    ofLayers place table env = withEnvironment env (({} : Draft).under (table.getD []).layer) := by
  unfold ofLayers ofTable
  rw [Draft.merge_of_valid _ _ h]
  rfl

theorem ofLayers_of_valid (place : String) (h : Valid (table.getD []) env) :
    ∃ s, ofLayers place table env = .ok s ∧
      Layered [env.layer, (table.getD []).layer] (table.getD []).colors s := by
  rw [ofLayers_of_valid_table place env h.table, withEnvironment_of_valid _ h.environment]
  have hkeys : (table.getD []).colors.keys.Nodup :=
    Entries.nodup_putAll (t := []) List.nodup_nil _
  obtain ⟨palette, hfreeze, hcolor⟩ := Draft.freeze_of_fits
    (d := (({} : Draft).under (table.getD []).layer).under env.layer) hkeys h.colors
  refine ⟨_, hfreeze, ?_, ?_, ?_, ?_, hcolor⟩ <;> simp only [findSome?_cons_getD] <;> rfl

theorem ofLayers_of_not_valid (place : String) (h : ¬Valid (table.getD []) env) :
    ∃ e, ofLayers place table env = .error e := by
  by_cases ht : (table.getD []).Valid
  · rw [ofLayers_of_valid_table place env ht]
    by_cases henv : env.Valid
    · rw [withEnvironment_of_valid _ henv]
      exact Draft.freeze_of_not_fits fun hcolors => h ⟨ht, hcolors, henv⟩
    · exact withEnvironment_of_not_valid _ henv
  · obtain ⟨kept, e, he⟩ := ({} : Draft).merge_of_not_valid place ht
    unfold ofLayers ofTable
    rw [he]
    exact ⟨e, rfl⟩

theorem ofLayers_error_iff (place : String) (table : Option SettingsTable) (env : Environment) :
    (∃ e, ofLayers place table env = .error e) ↔ ¬Valid (table.getD []) env := by
  refine ⟨?_, ofLayers_of_not_valid place⟩
  rintro ⟨e, he⟩ hvalid
  obtain ⟨s, hs, -⟩ := ofLayers_of_valid place hvalid
  rw [hs] at he
  cases he

theorem layered_ofLayers {s : Settings} (h : ofLayers place table env = .ok s) :
    Layered [env.layer, (table.getD []).layer] (table.getD []).colors s := by
  have hvalid : Valid (table.getD []) env := Classical.not_not.mp fun hnot => by
    obtain ⟨e, he⟩ := ofLayers_of_not_valid place hnot
    rw [h] at he
    cases he
  obtain ⟨found, hfound, hlayered⟩ := ofLayers_of_valid place hvalid
  rw [h] at hfound
  cases hfound
  exact hlayered

/-! ### Resolving -/

/-- The place and the plain settings of the file to use, if there is one and it has some. -/
def chosenTable (fs : FileSystem) (r : Request) :
    Except Utf8.Fault (String × Option SettingsTable) :=
  match (chooseFile fs r).value with
  | .error fault => .error fault
  | .ok none => .ok ("", none)
  | .ok (some path) =>
    (SettingsFile.load fs path).value.map fun t => (path.text, SettingsFile.settings? path t)

theorem finish_eq (env : Environment) (useEnvironment : Bool) (d : Draft) :
    finish env useEnvironment d =
      (withEnvironment (if useEnvironment then env else []) d).mapError .settings := by
  cases useEnvironment with
  | false => rfl
  | true =>
    simp only [finish, withEnvironment, if_true]
    rcases d.mergeEnvironment env with ⟨after, _ | e⟩ <;> rfl

theorem mergeFound_value (path : Path) (found : Option SettingsTable) :
    (SettingsFile.mergeFound {} path found).value =
      (ofTable path.text found).mapError .settings := by
  cases found with
  | none => rfl
  | some t =>
    simp only [SettingsFile.mergeFound, ofTable, Option.getD_some]
    rcases ({} : Draft).merge path.text t with ⟨⟨d, _ | e⟩, records⟩ <;> rfl

theorem withFile_of_chosen {fs : FileSystem} {r : Request} {file : Option Path}
    (hfile : (chooseFile fs r).value = .ok file) (h : chosenTable fs r = .ok (place, table)) :
    (withFile fs file).value = (ofTable place table).mapError .settings := by
  unfold chosenTable at h
  rw [hfile] at h
  cases file with
  | none =>
    cases h
    rfl
  | some path =>
    cases hload : (SettingsFile.load fs path).value with
    | error fault =>
      simp only [hload] at h
      cases h
    | ok t =>
      simp only [hload] at h
      cases h
      simp only [withFile, SettingsFile.mergeFile, Noted.value_bind, hload]
      exact mergeFound_value path _

theorem resolve_of_chosen {fs : FileSystem} {r : Request}
    (h : chosenTable fs r = .ok (place, table)) (env : Environment) :
    (resolve fs env r).value =
      (ofLayers place table (if r.useEnvironment then env else [])).mapError .settings := by
  cases hfile : (chooseFile fs r).value with
  | error fault =>
    unfold chosenTable at h
    rw [hfile] at h
    cases h
  | ok file =>
    simp only [resolve, Noted.value_bind, hfile, withFile_of_chosen hfile h, ofLayers]
    cases ofTable place table with
    | error e => rfl
    | ok d => exact finish_eq env r.useEnvironment d

end Settings

/-! ### Deciding about color -/

theorem ColorMode.decide_auto (env : Environment) (output : Terminal.Probe) :
    decide (some .auto) env output =
      if (env.get? "FORCE_COLOR").any fun v => v ≠ "" ∧ v ≠ "0" then .ok true
      else if env.has "NO_COLOR" then .ok false
      else output.isTerminal := by
  have hforce : (env.nonempty? "FORCE_COLOR").any (· ≠ "0") =
      (env.get? "FORCE_COLOR").any fun v => v ≠ "" ∧ v ≠ "0" := by
    unfold Environment.nonempty?
    cases env.get? "FORCE_COLOR" with
    | none => rfl
    | some v => by_cases hv : v = "" <;> simp [Option.filter, hv]
  unfold decide Environment.colorPreference
  rw [hforce]
  cases (env.get? "FORCE_COLOR").any fun v => v ≠ "" ∧ v ≠ "0" with
  | true => rfl
  | false => cases env.has "NO_COLOR" <;> rfl

/-! ### The command line -/

namespace Cli

/-- What a command line sets: no color before a color mode, and what is asked of the command. -/
def commandLayer (o : ProgramOptions) (r : LogRequest) : Layer :=
  { lead := r.lead
    colorMode := if o.noColor then some .never else o.color
    verbose := r.groups.map some
    batchMode := none
    colors := [] }

/-- The settings with which the logger of a command works. -/
def LogRequest.settings (r : LogRequest) (p : Prepared) : Settings :=
  { p.settings with
    lead := (r.setup p).lead
    verbose := (r.setup p).verbose
    palette := (r.setup p).palette }

theorem layered_command {layers : List Layer} {colors : Entries String String} {s : Settings}
    (h : Settings.Layered layers colors s) (o : ProgramOptions) (r : LogRequest) (useColor : Bool) :
    Settings.Layered (commandLayer o r :: layers) colors
      (r.settings ⟨withOverrides s o, useColor⟩) where
  lead := by
    rw [Settings.findSome?_cons_getD, ← h.lead]
    rfl
  colorMode := by
    rw [Settings.findSome?_cons_getD, ← h.colorMode]
    rfl
  verbose := by
    rw [Settings.findSome?_cons_getD, ← h.verbose]
    show r.groups.or s.verbose = (r.groups.map some).getD s.verbose
    cases r.groups <;> rfl
  batchMode := by
    rw [Settings.findSome?_cons_getD, ← h.batchMode]
    rfl
  palette := h.palette

variable {w : World} {o : ProgramOptions}

theorem resolveSettings_of_ok {s : Settings}
    (h : (Settings.resolve w.files w.env { file := o.config }).value = .ok s) :
    (resolveSettings w o).result = .ok s := by
  unfold resolveSettings
  rw [Act.bind_of_ok rfl, h]
  rfl

theorem resolveSettings_of_error {e : SettingsError}
    (h : (Settings.resolve w.files w.env { file := o.config }).value = .error (.settings e)) :
    (resolveSettings w o).result = .error (.exit ErrorKind.config.exitCode) := by
  unfold resolveSettings
  rw [Act.bind_of_ok rfl, h]
  rfl

theorem prepare_of_ok {s : Settings} {useColor : Bool}
    (hs : (Settings.resolve w.files w.env { file := o.config }).value = .ok s)
    (hcolor : ColorMode.decide (some (withOverrides s o).colorMode) w.env w.output = .ok useColor) :
    (prepare w o).result = .ok ⟨withOverrides s o, useColor⟩ := by
  unfold prepare
  rw [Act.bind_of_ok (resolveSettings_of_ok hs)]
  dsimp only
  rw [Act.bind_of_ok rfl, hcolor]
  rfl

theorem prepare_of_error {e : SettingsError}
    (h : (Settings.resolve w.files w.env { file := o.config }).value = .error (.settings e)) :
    (prepare w o).result = .error (.exit ErrorKind.config.exitCode) := by
  unfold prepare
  rw [Act.bind_of_error (resolveSettings_of_error h)]

/-- Layers of settings. There are settings exactly when the values of the table and of the
environment are valid; each of them comes from the highest layer that sets it; the automatic choice
of color is up to the environment and then to the terminal. So it is for every table and every
environment, and a run works with the table of its settings file. -/
theorem settings_layered (place : String) (table : Option SettingsTable) (env : Environment)
    (o : ProgramOptions) (r : LogRequest) :
    ((∃ e, Settings.ofLayers place table env = .error e) ↔
      ¬Settings.Valid (table.getD []) env) ∧
    (∀ s useColor, Settings.ofLayers place table env = .ok s →
      Settings.Layered [commandLayer o r, env.layer, (table.getD []).layer] (table.getD []).colors
        (r.settings ⟨withOverrides s o, useColor⟩)) ∧
    (∀ output, ColorMode.decide (some .auto) env output =
      if (env.get? "FORCE_COLOR").any fun v => v ≠ "" ∧ v ≠ "0" then .ok true
      else if env.has "NO_COLOR" then .ok false
      else output.isTerminal) ∧
    (∀ fs request, Settings.chosenTable fs request = .ok (place, table) →
      (Settings.resolve fs env request).value =
        (Settings.ofLayers place table (if request.useEnvironment then env else [])).mapError
          .settings) ∧
    ∀ w : World, w.env = env →
      Settings.chosenTable w.files { file := o.config } = .ok (place, table) →
      (∀ e, Settings.ofLayers place table env = .error e →
        (prepare w o).result = .error (.exit ErrorKind.config.exitCode)) ∧
      ∀ s useColor, Settings.ofLayers place table env = .ok s →
        ColorMode.decide (some (withOverrides s o).colorMode) env w.output = .ok useColor →
        (prepare w o).result = .ok ⟨withOverrides s o, useColor⟩ := by
  refine ⟨Settings.ofLayers_error_iff place table env,
    fun s useColor hs => layered_command (Settings.layered_ofLayers hs) o r useColor,
    ColorMode.decide_auto env, fun fs request h => Settings.resolve_of_chosen h env, ?_⟩
  rintro w rfl hchosen
  have hresolve := Settings.resolve_of_chosen hchosen w.env
  refine ⟨fun e he => ?_, fun s useColor hs hcolor => ?_⟩
  · exact prepare_of_error (hresolve.trans (congrArg _ he))
  · exact prepare_of_ok (hresolve.trans (congrArg _ hs)) hcolor

/- A file with the line `color=true`. First the environment sets an empty prefix, and the command
line asks for the automatic choice of color, which the environment then decides; then the
environment holds a value that is wrong. -/
theorem settings_layered_file :
    (Settings.chosenTable
        { entries := [(["a"], .file [99, 111, 108, 111, 114, 61, 116, 114, 117, 101])] }
        { file := some (Path.ofText "a") } = .ok ("a", some [("color", .bool true)]) ∧
      Settings.ofLayers "a" (some [("color", .bool true)])
        [("EMPHLOG_PREFIX", ""), ("NO_COLOR", "")] = .ok { lead := "", colorMode := .always } ∧
      Settings.Layered
        [commandLayer ⟨0, 0, false, some .auto, some (Path.ofText "a")⟩
            ⟨none, none, some "build", none, false, "hello", []⟩,
          Environment.layer [("EMPHLOG_PREFIX", ""), ("NO_COLOR", "")],
          SettingsTable.layer [("color", .bool true)]]
        (SettingsTable.colors [("color", .bool true)])
        { lead := "", colorMode := .auto, verbose := some "build" } ∧
      (prepare
        { files := { entries := [(["a"], .file [99, 111, 108, 111, 114, 61, 116, 114, 117, 101])] }
          env := [("EMPHLOG_PREFIX", ""), ("NO_COLOR", "")]
          output := .answers true }
        ⟨0, 0, false, some .auto, some (Path.ofText "a")⟩).result =
          .ok ⟨{ lead := "", colorMode := .auto }, false⟩) ∧
    (Settings.ofLayers "a" (some [("color", .bool true)]) [("EMPHLOG_BATCH_MODE", "2")] =
        .error (.unknownBoolean "EMPHLOG_BATCH_MODE" "2") ∧
      (prepare
        { files := { entries := [(["a"], .file [99, 111, 108, 111, 114, 61, 116, 114, 117, 101])] }
          env := [("EMPHLOG_BATCH_MODE", "2")] }
        ⟨0, 0, true, none, some (Path.ofText "a")⟩).result =
          .error (.exit ErrorKind.config.exitCode)) := by
  have hchosen : Settings.chosenTable
      { entries := [(["a"], .file [99, 111, 108, 111, 114, 61, 116, 114, 117, 101])] }
      { file := some (Path.ofText "a") } = .ok ("a", some [("color", .bool true)]) := by decide +kernel
  have hs : Settings.ofLayers "a" (some [("color", .bool true)])
      [("EMPHLOG_PREFIX", ""), ("NO_COLOR", "")] = .ok { lead := "", colorMode := .always } := by
    decide +kernel
  have hwrong : Settings.ofLayers "a" (some [("color", .bool true)]) [("EMPHLOG_BATCH_MODE", "2")] =
      .error (.unknownBoolean "EMPHLOG_BATCH_MODE" "2") := by decide +kernel
  have hcolor : ColorMode.decide (some (withOverrides { lead := "", colorMode := .always }
      ⟨0, 0, false, some .auto, some (Path.ofText "a")⟩).colorMode)
      [("EMPHLOG_PREFIX", ""), ("NO_COLOR", "")] (.answers true) = .ok false := by decide +kernel
  obtain ⟨-, hlayered, -, -, hprepared⟩ := settings_layered "a" (some [("color", .bool true)])
    [("EMPHLOG_PREFIX", ""), ("NO_COLOR", "")]
    ⟨0, 0, false, some .auto, some (Path.ofText "a")⟩
    ⟨none, none, some "build", none, false, "hello", []⟩
  obtain ⟨-, -, -, -, hstopped⟩ := settings_layered "a" (some [("color", .bool true)])
    [("EMPHLOG_BATCH_MODE", "2")] ⟨0, 0, true, none, some (Path.ofText "a")⟩
    ⟨none, none, none, none, false, "hello", []⟩
  have hrun := hprepared
    { files := { entries := [(["a"], .file [99, 111, 108, 111, 114, 61, 116, 114, 117, 101])] }
      env := [("EMPHLOG_PREFIX", ""), ("NO_COLOR", "")]
      output := .answers true } rfl hchosen
  have hstop := hstopped
    { files := { entries := [(["a"], .file [99, 111, 108, 111, 114, 61, 116, 114, 117, 101])] }
      env := [("EMPHLOG_BATCH_MODE", "2")] } rfl hchosen
  exact ⟨⟨hchosen, hs, hlayered _ false hs, hrun.2 _ false hs hcolor⟩, hwrong, hstop.1 _ hwrong⟩

end Cli

end MarkupLog
