import MarkupLog.Proofs.Encoding
import MarkupLog.Proofs.Layering

/-!
# What settings files may hold

A settings file that cannot be read, and one whose text is no settings document, count as empty and
are noted as errors. So what the files hold cannot keep a run from its settings, or from an error
about them, but for one thing: a file that is read and whose bytes encode no text. The search for a
settings file reads the shared files on its way up, and any of these may be such a file.
-/

namespace MarkupLog

namespace SettingsFile

/-- The file at the path can be read, and its bytes encode no text. -/
def Undecodable (fs : FileSystem) (path : Path) : Prop :=
  ∃ bytes, fs.read path = .ok bytes ∧ ¬bytes.toByteArray.IsValidUTF8

/-- The search goes on above the directory: there is no file of the program's own, and a shared
file, if there is one, has no settings for the program. -/
structure Passed (fs : FileSystem) (directory : Path) : Prop where
  own : fs.isFile (directory.child Program.settingsFile) = false
  shared : fs.isFile (directory.child Program.projectFile) = true →
    ∃ table, (load fs (directory.child Program.projectFile)).value = .ok table ∧
      (settings? (directory.child Program.projectFile) table).getD [] = []

/-- The files that are read for settings in the first of some directories that has a settings
file. -/
inductive Inspects (fs : FileSystem) : List Path → Path → Prop
  | own {directory rest} (h : fs.isFile (directory.child Program.settingsFile) = true) :
      Inspects fs (directory :: rest) (directory.child Program.settingsFile)
  | shared {directory rest} (hown : fs.isFile (directory.child Program.settingsFile) = false)
      (h : fs.isFile (directory.child Program.projectFile) = true) :
      Inspects fs (directory :: rest) (directory.child Program.projectFile)
  | farther {directory rest path} (hpassed : Passed fs directory) (h : Inspects fs rest path) :
      Inspects fs (directory :: rest) path

variable {fs : FileSystem} {path directory : Path}

/-! ### Loading -/

theorem load_of_unreadable {e : AccessError} (h : fs.read path = .error e) :
    load fs path = ⟨.ok [], [unreadableRecord path e]⟩ := by
  unfold load
  rw [h]

theorem load_of_malformed {bytes : List UInt8} {text : String} (h : fs.read path = .ok bytes)
    (htext : bytes.toByteArray = text.toByteArray)
    (hread : Toml.read (Text.plainLines text) = none) :
    load fs path = ⟨.ok [], [malformedRecord path]⟩ := by
  have hdecode : Utf8.decode bytes = .ok text := Utf8.decode_ok_iff.mpr htext
  unfold load
  rw [h]
  simp only [parse, hdecode, hread]

theorem parse_error_iff {bytes : List UInt8} {fault : Utf8.Fault} :
    (parse path bytes).value = .error fault ↔ Utf8.decode bytes = .error fault := by
  unfold parse
  cases Utf8.decode bytes with
  | error other => simp
  | ok text =>
    dsimp only
    cases Toml.read (Text.plainLines text) <;> simp

theorem load_error_iff (fs : FileSystem) (path : Path) :
    (∃ fault, (load fs path).value = .error fault) ↔ Undecodable fs path := by
  unfold load Undecodable
  cases fs.read path with
  | error e => simp
  | ok bytes => simp only [parse_error_iff, Utf8.decode_error_iff, Except.ok.injEq, exists_eq_left']

theorem load_ok_iff (fs : FileSystem) (path : Path) :
    (∃ table, (load fs path).value = .ok table) ↔ ¬Undecodable fs path := by
  rw [← load_error_iff]
  cases (load fs path).value with
  | error fault => simp
  | ok table => simp

/-! ### Searching -/

theorem inDirectory_of_own (h : fs.isFile (directory.child Program.settingsFile) = true) :
    (inDirectory fs directory).value = .ok (some (directory.child Program.settingsFile)) := by
  simp only [inDirectory, h, if_true, Noted.value_bind, Noted.value_pure]

theorem sharedCounts_value (fs : FileSystem) (path : Path) : (sharedCounts fs path).value =
    if fs.isFile path then
      (load fs path).value.map fun table => decide ((settings? path table).getD [] ≠ [])
    else .ok false := by
  have hcounts (found : Option SettingsTable) :
      (found.any fun table => !table.isEmpty) = decide (found.getD [] ≠ []) := by
    cases found with
    | none => rfl
    | some table => cases table <;> rfl
  unfold sharedCounts
  cases fs.isFile path with
  | false => rfl
  | true =>
    simp only [if_true, Noted.value_bind]
    cases (load fs path).value with
    | error fault => rfl
    | ok table => simp [hcounts, Except.map]

theorem inDirectory_value_of_no_own
    (h : fs.isFile (directory.child Program.settingsFile) = false) :
    (inDirectory fs directory).value =
      (sharedCounts fs (directory.child Program.projectFile)).value.map fun counts =>
        if counts then some (directory.child Program.projectFile) else none := by
  simp only [inDirectory, h, Bool.false_eq_true, if_false, Noted.value_bind]
  rcases (sharedCounts fs (directory.child Program.projectFile)).value with fault | _ | _ <;> rfl

/-- A directory without a file of the program's own: the search fails at a shared file that holds no
text, stops at one with settings, and else goes on. -/
theorem inDirectory_of_no_own (h : fs.isFile (directory.child Program.settingsFile) = false) :
    (fs.isFile (directory.child Program.projectFile) = true ∧
      Undecodable fs (directory.child Program.projectFile) ∧
      ∃ fault, (inDirectory fs directory).value = .error fault) ∨
    (fs.isFile (directory.child Program.projectFile) = true ∧ ¬Passed fs directory ∧
      ¬Undecodable fs (directory.child Program.projectFile) ∧
      (inDirectory fs directory).value = .ok (some (directory.child Program.projectFile))) ∨
    (Passed fs directory ∧ (inDirectory fs directory).value = .ok none) := by
  rw [inDirectory_value_of_no_own h, sharedCounts_value]
  cases hshared : fs.isFile (directory.child Program.projectFile) with
  | false => exact .inr (.inr ⟨⟨h, fun htrue => nomatch hshared.symm.trans htrue⟩, rfl⟩)
  | true =>
    simp only [if_true, true_and]
    cases hload : (load fs (directory.child Program.projectFile)).value with
    | error fault => exact .inl ⟨(load_error_iff _ _).mp ⟨fault, hload⟩, fault, rfl⟩
    | ok table =>
      by_cases hempty : (settings? (directory.child Program.projectFile) table).getD [] = []
      · refine .inr (.inr ⟨⟨h, fun _ => ⟨table, hload, hempty⟩⟩, ?_⟩)
        simp [Except.map, hempty]
      · refine .inr (.inl ⟨?_, (load_ok_iff _ _).mp ⟨table, hload⟩, ?_⟩)
        · intro hpassed
          obtain ⟨found, hfound, hnone⟩ := hpassed.shared hshared
          cases hload.symm.trans hfound
          exact hempty hnone
        · simp [Except.map, hempty]

/-- What comes of looking for a file, when some paths are read for it: without a file that holds no
text there is an outcome, and at most the outcome itself is such a file. -/
def Settles (fs : FileSystem) (reads : Path → Prop) : Except Utf8.Fault (Option Path) → Prop
  | .error _ => ∃ path, reads path ∧ Undecodable fs path
  | .ok found => (∀ path, found = some path → reads path) ∧
      ∀ path, reads path → Undecodable fs path → found = some path

/- By induction on the directories: the search goes on only above a directory that it passes. -/
theorem settles_inFirst (fs : FileSystem) (directories : List Path) :
    Settles fs (Inspects fs directories) (inFirst fs directories).value := by
  induction directories with
  | nil => exact ⟨nofun, nofun⟩
  | cons directory rest ih =>
    cases hown : fs.isFile (directory.child Program.settingsFile) with
    | true =>
      simp only [inFirst, Noted.value_bind, inDirectory_of_own hown, Noted.value_pure]
      refine ⟨fun path hfound => ?_, fun path hreads _ => ?_⟩
      · cases hfound
        exact .own hown
      · cases hreads with
        | own => rfl
        | shared hnone => exact nomatch hown.symm.trans hnone
        | farther hpassed => exact nomatch hown.symm.trans hpassed.own
    | false =>
      rcases inDirectory_of_no_own hown with ⟨hshared, hfault, fault, hvalue⟩ |
        ⟨hshared, hcounts, htext, hvalue⟩ | ⟨hpassed, hvalue⟩
      · simp only [inFirst, Noted.value_bind, hvalue, Noted.value_pure]
        exact ⟨_, .shared hown hshared, hfault⟩
      · simp only [inFirst, Noted.value_bind, hvalue, Noted.value_pure]
        refine ⟨fun path hfound => ?_, fun path hreads _ => ?_⟩
        · cases hfound
          exact .shared hown hshared
        · cases hreads with
          | own hthere => exact nomatch hown.symm.trans hthere
          | shared => rfl
          | farther hpassed => exact absurd hpassed hcounts
      · simp only [inFirst, Noted.value_bind, hvalue]
        cases hrest : (inFirst fs rest).value with
        | error fault =>
          rw [hrest] at ih
          obtain ⟨path, hreads, hfault⟩ := ih
          exact ⟨path, .farther hpassed hreads, hfault⟩
        | ok found =>
          rw [hrest] at ih
          obtain ⟨hfound, honly⟩ := ih
          refine ⟨fun path h => .farther hpassed (hfound path h), fun path hreads hfault => ?_⟩
          cases hreads with
          | own hthere => exact nomatch hown.symm.trans hthere
          | shared _ hshared =>
            obtain ⟨table, htable, -⟩ := hpassed.shared hshared
            exact absurd hfault ((load_ok_iff _ _).mp ⟨table, htable⟩)
          | farther _ hfarther => exact honly path hfarther hfault

end SettingsFile

namespace Settings

open SettingsFile (Undecodable Inspects Settles)

/-- The files that are read for the settings of a request: the one that it names, or else those that
the search reads. -/
def Reads (fs : FileSystem) (r : Request) (path : Path) : Prop :=
  match r.file with
  | some file => path = file
  | none => Inspects fs (r.start.getD fs.currentPath).upward path

variable {fs : FileSystem} {r : Request}

theorem settles_chooseFile (fs : FileSystem) (r : Request) :
    Settles fs (Reads fs r) (chooseFile fs r).value := by
  unfold chooseFile Reads
  cases r.file with
  | none => exact SettingsFile.settles_inFirst fs _
  | some file =>
    refine ⟨fun path hfound => ?_, fun path hreads _ => ?_⟩
    · exact (Option.some.inj hfound).symm
    · exact congrArg some hreads.symm

theorem chosenTable_error_iff :
    (∃ fault, chosenTable fs r = .error fault) ↔ ∃ path, Reads fs r path ∧ Undecodable fs path := by
  have hsettles := settles_chooseFile fs r
  unfold chosenTable
  cases hfile : (chooseFile fs r).value with
  | error fault =>
    rw [hfile] at hsettles
    exact ⟨fun _ => hsettles, fun _ => ⟨fault, rfl⟩⟩
  | ok found =>
    rw [hfile] at hsettles
    obtain ⟨hfound, honly⟩ := hsettles
    cases found with
    | none =>
      refine ⟨nofun, ?_⟩
      rintro ⟨path, hreads, hfault⟩
      exact nomatch honly path hreads hfault
    | some path =>
      have hload : (∃ fault, (SettingsFile.load fs path).value.map
          (fun t => (path.text, SettingsFile.settings? path t)) = .error fault) ↔
            Undecodable fs path := by
        rw [← SettingsFile.load_error_iff]
        cases (SettingsFile.load fs path).value with
        | error fault => simp [Except.map]
        | ok table => simp [Except.map]
      refine hload.trans ⟨fun hfault => ⟨path, hfound path rfl, hfault⟩, ?_⟩
      rintro ⟨other, hreads, hfault⟩
      cases honly other hreads hfault
      exact hfault

theorem resolve_of_fault {fault : Utf8.Fault} (h : chosenTable fs r = .error fault)
    (env : Environment) : (resolve fs env r).value = .error (.undecodable fault) := by
  unfold chosenTable at h
  cases hfile : (chooseFile fs r).value with
  | error other =>
    rw [hfile] at h
    cases h
    simp only [resolve, Noted.value_bind, hfile, Noted.value_pure]
  | ok found =>
    rw [hfile] at h
    cases found with
    | none => cases h
    | some path =>
      cases hload : (SettingsFile.load fs path).value with
      | ok table =>
        simp only [hload] at h
        cases h
      | error other =>
        simp only [hload] at h
        cases h
        simp only [resolve, withFile, SettingsFile.mergeFile, Noted.value_bind, hfile, hload,
          Noted.value_pure]

/-- Only bytes that encode no text keep a request from settings or an error about them. A file can
be loaded unless it holds such bytes; one that cannot be read, or whose text is no settings document,
is noted as an error and counts as empty. For every environment, there are settings or an error about
them exactly when none of the files that are read holds such bytes. -/
theorem only_undecodable_files_fail (fs : FileSystem) :
    (∀ path, (∃ table, (SettingsFile.load fs path).value = .ok table) ↔ ¬Undecodable fs path) ∧
    (∀ path e, fs.read path = .error e →
      SettingsFile.load fs path = ⟨.ok [], [SettingsFile.unreadableRecord path e]⟩) ∧
    (∀ path bytes text, fs.read path = .ok bytes → bytes.toByteArray = text.toByteArray →
      Toml.read (Text.plainLines text) = none →
      SettingsFile.load fs path = ⟨.ok [], [SettingsFile.malformedRecord path]⟩) ∧
    ∀ env r, ((∃ s, (resolve fs env r).value = .ok s) ∨
        ∃ e, (resolve fs env r).value = .error (.settings e)) ↔
      ∀ path, Reads fs r path → ¬Undecodable fs path := by
  refine ⟨SettingsFile.load_ok_iff fs, fun path e => SettingsFile.load_of_unreadable,
    fun path bytes text => SettingsFile.load_of_malformed, fun env r => ?_⟩
  have hreads : (∀ path, Reads fs r path → ¬Undecodable fs path) ↔
      ¬∃ fault, chosenTable fs r = .error fault := by
    rw [chosenTable_error_iff]
    simp only [not_exists, not_and]
  rw [hreads]
  cases hchosen : chosenTable fs r with
  | error fault => simp [resolve_of_fault hchosen env]
  | ok chosen =>
    obtain ⟨place, table⟩ := chosen
    rw [resolve_of_chosen hchosen env]
    cases ofLayers place table (if r.useEnvironment then env else []) with
    | error e => simp [Except.mapError]
    | ok s => simp [Except.mapError]

/- A file that holds an opening bracket, and a file that is missing. -/
theorem only_undecodable_files_fail_malformed :
    SettingsFile.load { entries := [(["emphlog.toml"], .file [0x5B])] }
        (Path.ofText "emphlog.toml") =
        ⟨.ok [], [SettingsFile.malformedRecord (Path.ofText "emphlog.toml")]⟩ ∧
      SettingsFile.load { entries := [(["emphlog.toml"], .file [0x5B])] }
        (Path.ofText "other.toml") =
        ⟨.ok [], [SettingsFile.unreadableRecord (Path.ofText "other.toml") .missing]⟩ ∧
      (resolve { entries := [(["emphlog.toml"], .file [0x5B])] } [] {}).value = .ok {} ∧
      ∀ path, Reads { entries := [(["emphlog.toml"], .file [0x5B])] } {} path →
        ¬Undecodable { entries := [(["emphlog.toml"], .file [0x5B])] } path := by
  have hmissing : FileSystem.read { entries := [(["emphlog.toml"], .file [0x5B])] }
      (Path.ofText "other.toml") = .error .missing := by decide +kernel
  have hread : FileSystem.read { entries := [(["emphlog.toml"], .file [0x5B])] }
      (Path.ofText "emphlog.toml") = .ok [0x5B] := by decide +kernel
  have htext : List.toByteArray [0x5B] = "[".toByteArray := by decide +kernel
  have hnone : Toml.read (Text.plainLines "[") = none := by decide +kernel
  have hresolve : (resolve { entries := [(["emphlog.toml"], .file [0x5B])] } [] {}).value =
      .ok {} := by decide +kernel
  obtain ⟨-, hunreadable, hmalformed, hsettings⟩ :=
    only_undecodable_files_fail { entries := [(["emphlog.toml"], .file [0x5B])] }
  exact ⟨hmalformed _ _ _ hread htext hnone, hunreadable _ _ hmissing, hresolve,
    (hsettings [] {}).mp (.inl ⟨{}, hresolve⟩)⟩

/- A file of one byte with which no character begins: nothing is noted, and there are no settings. -/
theorem stray_byte_leaves_no_settings :
    SettingsFile.load { entries := [(["emphlog.toml"], .file [0xFF])] }
        (Path.ofText "emphlog.toml") =
        ⟨.error ⟨0xFF, 0, 1, .invalidStart⟩, []⟩ ∧
      (resolve { entries := [(["emphlog.toml"], .file [0xFF])] } []
        { file := some (Path.ofText "emphlog.toml") }).value =
          .error (.undecodable ⟨0xFF, 0, 1, .invalidStart⟩) := by
  constructor <;> decide +kernel

end Settings

end MarkupLog
