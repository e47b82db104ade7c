import Mathlib.Data.List.Induction
import Mathlib.Data.Nat.Find
import Mathlib.Logic.Function.Iterate
import MarkupLog.Proofs.FileContents

/-!
# The nearest settings file

A directory holds settings if the program's own file is in it, or else a shared file with a table
for the program. Where all files hold text, the search finds the file of the first such directory on
the way up, but for one case: it passes over a shared file whose table is empty, although loading
that file takes the table for what it is.
-/

namespace MarkupLog

/-! ### Files of a tree -/

theorem Entries.mem_of_get? {κ α : Type} [DecidableEq κ] {t : Entries κ α} {key : κ} {value : α}
    (h : t.get? key = some value) : (key, value) ∈ t := by
  induction t with
  | nil => cases h
  | cons entry rest ih =>
    obtain ⟨k, v⟩ := entry
    rw [get?_cons] at h
    split at h
    · rename_i hkey
      cases h
      rw [hkey]
      exact List.mem_cons_self ..
    · exact List.mem_cons_of_mem _ (ih h)

theorem FileSystem.mem_of_read {fs : FileSystem} {path : Path} {bytes : List UInt8}
    (h : fs.read path = .ok bytes) : ∃ place, (place, FileEntry.file bytes) ∈ fs.entries := by
  unfold read entry at h
  cases hplace : fs.locate path with
  | error e => simp [hplace] at h
  | ok place =>
    cases hentry : fs.at? place with
    | none => simp [hplace, hentry] at h
    | some found =>
      cases found with
      | directory | unreadable => simp [hplace, hentry] at h
      | file other =>
        have hother : other = bytes := by simpa [hplace, hentry] using h
        rw [at?, hother] at hentry
        split at hentry
        · cases hentry
        · exact ⟨place, Entries.mem_of_get? hentry⟩

/-! ### The way up -/

/-- The directory above; the last one on the way up is above itself. -/
def Path.parent (p : Path) : Path :=
  { p with names := p.names.dropLast }

@[elab_as_elim]
theorem Path.childInduction {motive : Path → Prop} (root : ∀ anchor, motive ⟨anchor, []⟩)
    (child : ∀ directory name, motive directory → motive (directory.child name)) (p : Path) :
    motive p := by
  obtain ⟨anchor, names⟩ := p
  induction names using List.reverseRecOn with
  | nil => exact root anchor
  | append_singleton names name ih => exact child ⟨anchor, names⟩ name ih

theorem Path.parent_child (directory : Path) (name : String) :
    (directory.child name).parent = directory := by
  simp [parent, child]

theorem Path.upward_child (directory : Path) (name : String) :
    (directory.child name).upward = directory.child name :: directory.upward := by
  simp [upward, child, beginnings_append_singleton]

theorem Path.child_inj {a b : Path} {name other : String} :
    a.child name = b.child other ↔ a = b ∧ name = other := by
  constructor
  · intro h
    have hnames : a.names ++ [name] = b.names ++ [other] := congrArg Path.names h
    obtain ⟨hfront, hlast⟩ := List.append_inj' hnames rfl
    exact ⟨congr (congrArg Path.mk (congrArg Path.anchor h)) hfront, List.singleton_inj.mp hlast⟩
  · rintro ⟨rfl, rfl⟩
    rfl

/-- What there is on the way up from a directory: the first hit, or nothing if there is no hit. -/
def FirstUp (hit : Path → Path → Prop) (start : Path) : Option Path → Prop
  | none => ∀ steps path, ¬hit (Path.parent^[steps] start) path
  | some path => ∃ steps, hit (Path.parent^[steps] start) path ∧
      ∀ fewer < steps, ∀ other, ¬hit (Path.parent^[fewer] start) other

namespace FirstUp

variable {hit : Path → Path → Prop} {start directory path : Path} {found : Option Path}

theorem of_hit (h : hit start path) : FirstUp hit start (some path) :=
  ⟨0, h, fun _ hfewer => absurd hfewer (Nat.not_lt_zero _)⟩

theorem of_no_hit_root {anchor : Anchor} (h : ∀ path, ¬hit ⟨anchor, []⟩ path) :
    FirstUp hit ⟨anchor, []⟩ none := by
  intro steps path
  rw [Function.iterate_fixed rfl]
  exact h path

theorem child_of_no_hit {name : String} (h : ∀ path, ¬hit (directory.child name) path)
    (hup : FirstUp hit directory found) : FirstUp hit (directory.child name) found := by
  cases found with
  | none =>
    intro steps path
    cases steps with
    | zero => exact h path
    | succ steps =>
      rw [Function.iterate_succ_apply, Path.parent_child]
      exact hup steps path
  | some path =>
    obtain ⟨steps, hhit, hfirst⟩ := hup
    refine ⟨steps + 1, ?_, fun fewer hfewer other => ?_⟩
    · rw [Function.iterate_succ_apply, Path.parent_child]
      exact hhit
    · cases fewer with
      | zero => exact h other
      | succ fewer =>
        rw [Function.iterate_succ_apply, Path.parent_child]
        exact hfirst fewer (Nat.lt_of_succ_lt_succ hfewer) other

theorem unique (hone : ∀ directory path other, hit directory path → hit directory other →
      path = other) {found other : Option Path} (h : FirstUp hit start found)
    (hother : FirstUp hit start other) : found = other := by
  cases found with
  | none =>
    cases other with
    | none => rfl
    | some path =>
      obtain ⟨steps, hhit, -⟩ := hother
      exact absurd hhit (h steps path)
  | some path =>
    obtain ⟨steps, hhit, hfirst⟩ := h
    cases other with
    | none => exact absurd hhit (hother steps path)
    | some path' =>
      obtain ⟨steps', hhit', hfirst'⟩ := hother
      rcases Nat.lt_trichotomy steps steps' with hlt | rfl | hlt
      · exact absurd hhit (hfirst' steps hlt path)
      · exact congrArg some (hone _ _ _ hhit hhit')
      · exact absurd hhit' (hfirst steps' hlt path')

theorem exists_found (hit : Path → Path → Prop) (start : Path) :
    ∃ found, FirstUp hit start found := by
  classical
  by_cases h : ∃ steps path, hit (Path.parent^[steps] start) path
  · obtain ⟨path, hpath⟩ := Nat.find_spec h
    exact ⟨some path, Nat.find h, hpath, fun fewer hfewer other hother =>
      Nat.find_min h hfewer ⟨other, hother⟩⟩
  · exact ⟨none, fun steps path hpath => h ⟨steps, path, hpath⟩⟩

end FirstUp

/-! ### Hits -/

namespace SettingsFile

/-- The shared file in a directory has the table for the program. -/
def SharedTable (fs : FileSystem) (directory : Path) (table : SettingsTable) : Prop :=
  fs.isFile (directory.child Program.projectFile) = true ∧
    ∃ whole, (load fs (directory.child Program.projectFile)).value = .ok whole ∧
      settings? (directory.child Program.projectFile) whole = some table

/-- The settings file that a directory holds: the program's own file, or else the shared one if its
table for the program counts. -/
inductive Hit (fs : FileSystem) (counts : SettingsTable → Prop) (directory : Path) : Path → Prop
  | own (h : fs.isFile (directory.child Program.settingsFile) = true) :
      Hit fs counts directory (directory.child Program.settingsFile)
  | shared {table} (hown : fs.isFile (directory.child Program.settingsFile) = false)
      (h : SharedTable fs directory table) (hcounts : counts table) :
      Hit fs counts directory (directory.child Program.projectFile)

/-- On the way up, the first directory that holds settings holds them in a shared file whose table
for the program is empty. -/
def EmptyTableFirst (fs : FileSystem) (start : Path) : Prop :=
  ∃ steps, fs.isFile ((Path.parent^[steps] start).child Program.settingsFile) = false ∧
    SharedTable fs (Path.parent^[steps] start) [] ∧
    ∀ fewer < steps, ∀ path, ¬Hit fs (fun _ => True) (Path.parent^[fewer] start) path

variable {fs : FileSystem} {counts : SettingsTable → Prop} {directory start path : Path}
  {table : SettingsTable}

theorem SharedTable.unique {other : SettingsTable} (h : SharedTable fs directory table)
    (hother : SharedTable fs directory other) : table = other := by
  obtain ⟨-, whole, hload, htable⟩ := h
  obtain ⟨-, whole', hload', htable'⟩ := hother
  cases hload.symm.trans hload'
  exact Option.some.inj (htable.symm.trans htable')

theorem Hit.unique {other : Path} (h : Hit fs counts directory path)
    (hother : Hit fs counts directory other) : path = other := by
  cases h with
  | own hown =>
    cases hother with
    | own => rfl
    | shared hnone => exact nomatch hown.symm.trans hnone
  | shared hnone =>
    cases hother with
    | own hown => exact nomatch hown.symm.trans hnone
    | shared => rfl

theorem Hit.of_counts {more : SettingsTable → Prop} (h : Hit fs counts directory path)
    (hmore : ∀ table, counts table → more table) : Hit fs more directory path := by
  cases h with
  | own hown => exact .own hown
  | shared hown htable hcounts => exact .shared hown htable (hmore _ hcounts)

theorem Hit.nonempty_or (h : Hit fs (fun _ => True) directory path) :
    Hit fs (· ≠ []) directory path ∨
      fs.isFile (directory.child Program.settingsFile) = false ∧ SharedTable fs directory [] := by
  cases h with
  | own hown => exact .inl (.own hown)
  | @shared table hown htable _ =>
    by_cases hempty : table = []
    · exact .inr ⟨hown, hempty ▸ htable⟩
    · exact .inl (.shared hown htable hempty)

/-! ### Searching -/

theorem inDirectory_finds (h : ¬Undecodable fs (directory.child Program.projectFile)) :
    ∃ found, (inDirectory fs directory).value = .ok found ∧
      ∀ path, found = some path ↔ Hit fs (· ≠ []) directory path := by
  cases hown : fs.isFile (directory.child Program.settingsFile) with
  | true =>
    refine ⟨_, inDirectory_of_own hown, fun path => ⟨fun hfound => ?_, fun hhit => ?_⟩⟩
    · cases hfound
      exact .own hown
    · exact congrArg some ((Hit.own hown).unique hhit)
  | false =>
    rcases inDirectory_of_no_own hown with ⟨-, hfault, -⟩ | ⟨hshared, hcounts, htext, hvalue⟩ |
      ⟨hpassed, hvalue⟩
    · exact absurd hfault h
    · obtain ⟨whole, hload⟩ := (load_ok_iff _ _).mpr htext
      have hnonempty : (settings? (directory.child Program.projectFile) whole).getD [] ≠ [] :=
        fun hempty => hcounts ⟨hown, fun _ => ⟨whole, hload, hempty⟩⟩
      obtain ⟨table, htable⟩ : ∃ table,
          settings? (directory.child Program.projectFile) whole = some table := by
        cases hsettings : settings? (directory.child Program.projectFile) whole with
        | none => exact absurd (by rw [hsettings]; rfl) hnonempty
        | some table => exact ⟨table, rfl⟩
      rw [htable] at hnonempty
      have hhit : Hit fs (· ≠ []) directory (directory.child Program.projectFile) :=
        .shared hown ⟨hshared, whole, hload, htable⟩ hnonempty
      refine ⟨_, hvalue, fun path => ⟨fun hfound => ?_, fun hother => ?_⟩⟩
      · cases hfound
        exact hhit
      · exact congrArg some (hhit.unique hother)
    · refine ⟨_, hvalue, fun path => ⟨nofun, fun hhit => ?_⟩⟩
      cases hhit with
      | own hthere => exact nomatch hown.symm.trans hthere
      | shared _ htable hnonempty =>
        obtain ⟨hshared, whole, hload, hsome⟩ := htable
        obtain ⟨whole', hload', hempty⟩ := hpassed.shared hshared
        cases hload.symm.trans hload'
        rw [hsome] at hempty
        exact absurd hempty hnonempty

theorem inFirst_of_decided {rest : List Path} (h : (inDirectory fs directory).value ≠ .ok none) :
    inFirst fs (directory :: rest) = inDirectory fs directory := by
  unfold inFirst
  revert h
  generalize inDirectory fs directory = outcome
  obtain ⟨value, records⟩ := outcome
  rcases value with fault | _ | path
  · simp [bind, pure]
  · exact fun h => absurd rfl h
  · simp [bind, pure]

theorem inFirst_of_none {rest : List Path} (h : (inDirectory fs directory).value = .ok none) :
    inFirst fs (directory :: rest) = (inDirectory fs directory >>= fun _ => inFirst fs rest) := by
  rw [inFirst]
  simp only [bind, h]

theorem discover_root (fs : FileSystem) (anchor : Anchor) :
    discover fs ⟨anchor, []⟩ = inDirectory fs ⟨anchor, []⟩ := by
  show inFirst fs [⟨anchor, []⟩] = inDirectory fs ⟨anchor, []⟩
  by_cases h : (inDirectory fs ⟨anchor, []⟩).value = .ok none
  · rw [inFirst_of_none h]
    revert h
    generalize inDirectory fs ⟨anchor, []⟩ = outcome
    obtain ⟨value, records⟩ := outcome
    rintro rfl
    simp [inFirst, bind, pure]
  · exact inFirst_of_decided h

theorem discover_child_of_decided {name : String}
    (h : (inDirectory fs (directory.child name)).value ≠ .ok none) :
    discover fs (directory.child name) = inDirectory fs (directory.child name) := by
  unfold discover
  rw [Path.upward_child, inFirst_of_decided h]

theorem discover_child_of_none {name : String}
    (h : (inDirectory fs (directory.child name)).value = .ok none) :
    discover fs (directory.child name) =
      (inDirectory fs (directory.child name) >>= fun _ => discover fs directory) := by
  unfold discover
  rw [Path.upward_child, inFirst_of_none h]

/- By induction on the way up. -/
theorem discover_firstUp (h : ∀ path, ¬Undecodable fs path) (start : Path) :
    ∃ found, (discover fs start).value = .ok found ∧ FirstUp (Hit fs (· ≠ [])) start found := by
  induction start using Path.childInduction with
  | root anchor =>
    obtain ⟨found, hvalue, hhit⟩ := inDirectory_finds (h (Path.child ⟨anchor, []⟩ _))
    refine ⟨found, by rw [discover_root, hvalue], ?_⟩
    cases found with
    | none => exact .of_no_hit_root fun path hpath => nomatch (hhit path).mpr hpath
    | some path => exact .of_hit ((hhit path).mp rfl)
  | child directory name ih =>
    obtain ⟨above, habove, hup⟩ := ih
    obtain ⟨found, hvalue, hhit⟩ := inDirectory_finds (h ((directory.child name).child _))
    cases found with
    | none =>
      refine ⟨above, ?_, hup.child_of_no_hit fun path hpath => nomatch (hhit path).mpr hpath⟩
      rw [discover_child_of_none hvalue, Noted.value_bind, habove]
    | some path =>
      have hdecided : (inDirectory fs (directory.child name)).value ≠ .ok none := by simp [hvalue]
      refine ⟨some path, ?_, .of_hit ((hhit path).mp rfl)⟩
      rw [discover_child_of_decided hdecided, hvalue]

theorem discover_ok_iff (h : ∀ path, ¬Undecodable fs path) {found : Option Path} :
    (discover fs start).value = .ok found ↔ FirstUp (Hit fs (· ≠ [])) start found := by
  obtain ⟨first, hvalue, hfirst⟩ := discover_firstUp h start
  rw [hvalue]
  constructor
  · rintro ⟨⟩
    exact hfirst
  · intro hfound
    exact congrArg _ (hfirst.unique (fun _ _ _ hhit => hhit.unique) hfound)

/- At the first hit of the larger kind, a table that does not count would be an empty one. -/
theorem firstUp_nonempty {found : Option Path} (hno : ¬EmptyTableFirst fs start)
    (h : FirstUp (Hit fs fun _ => True) start found) : FirstUp (Hit fs (· ≠ [])) start found := by
  have hmore {directory path : Path} (hhit : Hit fs (· ≠ []) directory path) :
      Hit fs (fun _ => True) directory path := hhit.of_counts fun _ _ => trivial
  cases found with
  | none => exact fun steps path hhit => h steps path (hmore hhit)
  | some path =>
    obtain ⟨steps, hhit, hfirst⟩ := h
    refine ⟨steps, ?_, fun fewer hfewer other hother => hfirst fewer hfewer other (hmore hother)⟩
    rcases hhit.nonempty_or with hnonempty | ⟨hown, hempty⟩
    · exact hnonempty
    · exact absurd ⟨steps, hown, hempty, hfirst⟩ hno

theorem EmptyTableFirst.not_firstUp (h : EmptyTableFirst fs start) :
    ∃ path, FirstUp (Hit fs fun _ => True) start (some path) ∧
      ¬FirstUp (Hit fs (· ≠ [])) start (some path) := by
  obtain ⟨steps, hown, hempty, hfirst⟩ := h
  refine ⟨_, ⟨steps, .shared hown hempty trivial, hfirst⟩, ?_⟩
  rintro ⟨other, hhit, -⟩
  generalize hplace : (Path.parent^[steps] start).child Program.projectFile = path at hhit
  cases hhit with
  | own => exact absurd (Path.child_inj.mp hplace).2 (by decide)
  | shared _ htable hnonempty =>
    rw [← (Path.child_inj.mp hplace).1] at htable
    exact hnonempty (htable.unique hempty)

/-! ### Loading -/

theorem level_of_mem_load {r : Record} (h : r ∈ (load fs path).records) :
    r.level = Level.error := by
  unfold load at h
  cases hread : fs.read path with
  | error e =>
    simp only [hread, List.mem_singleton] at h
    rw [h, unreadableRecord]
  | ok bytes =>
    simp only [hread, parse] at h
    cases hdecode : Utf8.decode bytes with
    | error fault => simp [hdecode] at h
    | ok text =>
      cases htable : Toml.read (Text.plainLines text) with
      | some table => simp [hdecode, htable] at h
      | none =>
        simp only [hdecode, htable, List.mem_singleton] at h
        rw [h, malformedRecord]

theorem mergeFile_of_loaded {whole : SettingsTable} (h : (load fs path).value = .ok whole)
    (d : Draft) : mergeFile fs path d =
      ⟨(mergeFound d path (settings? path whole)).value,
        (load fs path).records ++ (mergeFound d path (settings? path whole)).records⟩ := by
  unfold mergeFile
  simp only [bind, h]

theorem absentRecord_mem_mergeFound_iff (path : Path) (d : Draft) (found : Option SettingsTable) :
    absentRecord path ∈ (mergeFound d path found).records ↔ found = none := by
  cases found with
  | none => simp [mergeFound]
  | some table =>
    have hrecords :
        (mergeFound d path (some table)).records = unknownKeyRecords path.text table := by
      simp only [mergeFound, Draft.merge]
      rcases applySteps (tableSteps path.text table) d with ⟨after, _ | e⟩ <;> rfl
    simp [hrecords, unknownKeyRecords, absentRecord, Level.warning, Level.debug]

theorem absentRecord_mem_mergeFile_iff {whole : SettingsTable}
    (h : (load fs path).value = .ok whole) (d : Draft) :
    absentRecord path ∈ (mergeFile fs path d).records ↔ settings? path whole = none := by
  have hlevel : Level.debug ≠ Level.error := by decide
  have hload : absentRecord path ∉ (load fs path).records :=
    fun hmem => hlevel (level_of_mem_load hmem)
  rw [mergeFile_of_loaded h, ← absentRecord_mem_mergeFound_iff path d]
  simp [hload]

/-! ### The search -/

/-- The search finds the nearest file in a directory that holds settings, if there is one, where
every file holds text. A shared file counts if its table for the program is not empty. Loading takes
the table of a shared file whether or not it is empty, and notes a file without one. So the search
agrees with loading, for every directory to start from, exactly when the first table on the way up
is not an empty one. -/
theorem discovery_finds_nearest (h : ∀ path, ¬Undecodable fs path) :
    (∀ start, ∃ found, (discover fs start).value = .ok found) ∧
    (∀ start found,
      (discover fs start).value = .ok found ↔ FirstUp (Hit fs (· ≠ [])) start found) ∧
    (∀ directory draft, fs.isFile (directory.child Program.projectFile) = true →
      ((∃ table, SharedTable fs directory table) ↔
        absentRecord (directory.child Program.projectFile) ∉
          (mergeFile fs (directory.child Program.projectFile) draft).records)) ∧
    (∀ directory table draft, SharedTable fs directory table →
      (mergeFile fs (directory.child Program.projectFile) draft).value =
        (mergeFound draft (directory.child Program.projectFile) (some table)).value) ∧
    ∀ start, (∀ found, (discover fs start).value = .ok found ↔
        FirstUp (Hit fs fun _ => True) start found) ↔ ¬EmptyTableFirst fs start := by
  have hfinds (start : Path) (found : Option Path) :
      (discover fs start).value = .ok found ↔ FirstUp (Hit fs (· ≠ [])) start found :=
    discover_ok_iff h
  refine ⟨fun start => ?_, hfinds, fun directory draft hfile => ?_,
    fun directory table draft htable => ?_,
    fun start => ⟨fun hagrees hempty => ?_, fun hno found => ?_⟩⟩
  · obtain ⟨found, hvalue, -⟩ := discover_firstUp h start
    exact ⟨found, hvalue⟩
  · obtain ⟨whole, hload⟩ := (load_ok_iff _ _).mpr (h (directory.child Program.projectFile))
    rw [absentRecord_mem_mergeFile_iff hload, ← ne_eq, Option.ne_none_iff_exists']
    constructor
    · rintro ⟨table, -, whole', hload', htable⟩
      cases hload.symm.trans hload'
      exact ⟨table, htable⟩
    · rintro ⟨table, htable⟩
      exact ⟨table, hfile, whole, hload, htable⟩
  · obtain ⟨-, whole, hload, hsettings⟩ := htable
    rw [mergeFile_of_loaded hload, hsettings]
  · obtain ⟨path, hfirst, hnot⟩ := hempty.not_firstUp
    exact hnot ((hfinds start _).mp ((hagrees _).mpr hfirst))
  · rw [hfinds]
    refine ⟨fun hfound => ?_, firstUp_nonempty hno⟩
    obtain ⟨first, hfirst⟩ := FirstUp.exists_found (Hit fs fun _ => True) start
    rwa [hfound.unique (fun _ _ _ hhit => hhit.unique) (firstUp_nonempty hno hfirst)]

/-- A file of the program's own, and in a directory beside it a shared file. -/
def ownAboveShared (own shared : List UInt8) : FileSystem :=
  { entries :=
      [(["emphlog.toml"], .file own), (["a"], .directory),
        (["a", "pyproject.toml"], .file shared)] }

/-- The text `[tool.emphlog]`. -/
def emptyTableText : List UInt8 :=
  [91, 116, 111, 111, 108, 46, 101, 109, 112, 104, 108, 111, 103, 93]

/-- The text of a table with a key. -/
def tableText : List UInt8 :=
  emptyTableText ++ [10, 120, 61, 49]

/- The table has a key: the search from a directory that is not there ends at the shared file. -/
theorem discover_ownAboveShared :
    (discover (ownAboveShared [] tableText) (Path.ofNames ["a", "b"])).value =
      .ok (some (Path.ofNames ["a", "pyproject.toml"])) := by
  decide +kernel

theorem discovery_finds_nearest_shared :
    (∀ path, ¬Undecodable (ownAboveShared [] tableText) path) ∧
    FirstUp (Hit (ownAboveShared [] tableText) (· ≠ [])) (Path.ofNames ["a", "b"])
      (some (Path.ofNames ["a", "pyproject.toml"])) := by
  have htexts (path : Path) : ¬Undecodable (ownAboveShared [] tableText) path := by
    rintro ⟨bytes, hread, hinvalid⟩
    obtain ⟨place, hmem⟩ := FileSystem.mem_of_read hread
    simp only [ownAboveShared, List.mem_cons, Prod.mk.injEq, FileEntry.file.injEq, reduceCtorEq,
      List.not_mem_nil, and_false, false_or, or_false] at hmem
    rcases hmem with ⟨-, rfl⟩ | ⟨-, rfl⟩
    · exact hinvalid "".isValidUTF8
    · exact hinvalid "[tool.emphlog]\nx=1".isValidUTF8
  exact ⟨htexts, ((discovery_finds_nearest htexts).2.1 _ _).mp discover_ownAboveShared⟩

/- The table is empty: the search goes on to the file above, and loading takes the table. -/
theorem search_passes_empty_table :
    (discover (ownAboveShared [] emptyTableText) (Path.ofNames ["a"])).value =
      .ok (some (Path.ofNames ["emphlog.toml"])) ∧
    FirstUp (Hit (ownAboveShared [] emptyTableText) fun _ => True) (Path.ofNames ["a"])
      (some (Path.ofNames ["a", "pyproject.toml"])) ∧
    mergeFile (ownAboveShared [] emptyTableText) (Path.ofNames ["a", "pyproject.toml"]) {} =
      ⟨.ok {}, []⟩ := by
  have hown : (ownAboveShared [] emptyTableText).isFile (Path.ofNames ["a", "emphlog.toml"]) =
      false := by
    decide +kernel
  have hshared : (ownAboveShared [] emptyTableText).isFile (Path.ofNames ["a", "pyproject.toml"]) =
      true := by
    decide +kernel
  have hload : load (ownAboveShared [] emptyTableText) (Path.ofNames ["a", "pyproject.toml"]) =
      ⟨.ok [("tool", .table [("emphlog", .table [])])], []⟩ := by
    decide +kernel
  have htable : SharedTable (ownAboveShared [] emptyTableText) (Path.ofNames ["a"]) [] :=
    ⟨hshared, _, congrArg Noted.value hload, rfl⟩
  refine ⟨?_, .of_hit (.shared hown htable trivial), ?_⟩
  · decide +kernel
  · unfold mergeFile
    rw [hload]
    rfl

end SettingsFile

end MarkupLog
