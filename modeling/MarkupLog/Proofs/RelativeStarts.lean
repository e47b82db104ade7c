import MarkupLog.Proofs.FartherFiles

/-!
# Searches from a relative directory

A path that starts in the current directory leads where the same path does that starts at the root
and goes through the current directory. On the way up from a relative directory, however, the search
ends at the current directory, since no path above it has a name. So up to there it finds the same
file from either path, and only the search from the root's path goes on to the directories above.
-/

namespace MarkupLog

/-! ### Paths that start in the current directory -/

namespace FileSystem

/-- The path from the root that stands for a path which may start in the current directory. -/
def absolute (fs : FileSystem) (p : Path) : Path :=
  if p.anchor = .current then Path.ofNames (fs.current ++ p.names) else p

variable {fs : FileSystem}

theorem absolute_child (p : Path) (name : String) :
    fs.absolute (p.child name) = (fs.absolute p).child name := by
  by_cases h : p.anchor = .current
  · simp [absolute, Path.child, Path.ofNames, h]
  · simp [absolute, Path.child, h]

/- By induction on the names in front. -/
theorem follow_append (place : Location) (front rest : List String) :
    fs.follow place (front ++ rest) =
      (fs.follow place front).bind fun reached => fs.follow reached rest := by
  induction front generalizing place with
  | nil => rfl
  | cons name front ih =>
    rw [List.cons_append, follow, follow]
    split
    · rfl
    · rfl
    · rfl
    · split
      · exact ih _
      · split
        · rfl
        · exact ih _

theorem locate_absolute (h : fs.locate fs.currentPath = .ok fs.current) (p : Path) :
    fs.locate (fs.absolute p) = fs.locate p := by
  by_cases hp : p.anchor = .current
  · have hcurrent : fs.follow [] fs.current = .ok fs.current := h
    have horigin : fs.origin p = fs.current := if_pos hp
    rw [absolute, if_pos hp, locate, locate, horigin]
    show fs.follow [] (fs.current ++ p.names) = fs.follow fs.current p.names
    rw [follow_append, hcurrent]
    rfl
  · rw [absolute, if_neg hp]

theorem read_absolute (h : fs.locate fs.currentPath = .ok fs.current) (p : Path) :
    fs.read (fs.absolute p) = fs.read p := by
  rw [read, read, entry, entry, locate_absolute h]

theorem isFile_absolute (h : fs.locate fs.currentPath = .ok fs.current) (p : Path) :
    fs.isFile (fs.absolute p) = fs.isFile p := by
  rw [isFile, isFile, entry, entry, locate_absolute h]

theorem exists_locate_of_isFile {p : Path} (h : fs.isFile p = true) :
    ∃ place, fs.locate p = .ok place := by
  unfold isFile entry at h
  cases hplace : fs.locate p with
  | ok place => exact ⟨place, rfl⟩
  | error e => simp [hplace] at h

end FileSystem

namespace SettingsFile

/-- Two outcomes of a search are the same file of the tree, both no file, or the same fault. -/
def SameFound (fs : FileSystem) :
    Except Utf8.Fault (Option Path) → Except Utf8.Fault (Option Path) → Prop
  | .ok (some path), .ok (some other) =>
    ∃ place, fs.locate path = .ok place ∧ fs.locate other = .ok place
  | .ok none, .ok none => True
  | .error fault, .error other => fault = other
  | _, _ => False

variable {fs : FileSystem}

/-! ### One directory -/

theorem load_absolute (h : fs.locate fs.currentPath = .ok fs.current) (p : Path) :
    (load fs (fs.absolute p)).value = (load fs p).value := by
  unfold load
  rw [fs.read_absolute h]
  cases fs.read p with
  | error e => rfl
  | ok bytes =>
    simp only [parse]
    cases Utf8.decode bytes with
    | error fault => rfl
    | ok text =>
      dsimp only
      cases Toml.read (Text.plainLines text) <;> rfl

theorem settings?_child (directory other : Path) (name : String) (table : SettingsTable) :
    settings? (directory.child name) table = settings? (other.child name) table := by
  simp [settings?, Path.name, Path.child]

theorem inDirectory_absolute (h : fs.locate fs.currentPath = .ok fs.current) (directory : Path) :
    (inDirectory fs (fs.absolute directory)).value =
      (inDirectory fs directory).value.map (Option.map fs.absolute) := by
  have hfile (name : String) :
      fs.isFile ((fs.absolute directory).child name) = fs.isFile (directory.child name) := by
    rw [← fs.absolute_child, fs.isFile_absolute h]
  have hload (name : String) : (load fs ((fs.absolute directory).child name)).value =
      (load fs (directory.child name)).value := by
    rw [← fs.absolute_child, load_absolute h]
  cases hown : fs.isFile (directory.child Program.settingsFile) with
  | true =>
    rw [inDirectory_of_own hown, inDirectory_of_own ((hfile _).trans hown)]
    simp [Except.map, fs.absolute_child]
  | false =>
    rw [inDirectory_value_of_no_own hown, inDirectory_value_of_no_own ((hfile _).trans hown),
      sharedCounts_value, sharedCounts_value, hfile, hload]
    simp only [settings?_child (fs.absolute directory) directory]
    cases fs.isFile (directory.child Program.projectFile) with
    | false => rfl
    | true =>
      cases (load fs (directory.child Program.projectFile)).value with
      | error fault => rfl
      | ok table =>
        by_cases hempty : (settings? (directory.child Program.projectFile) table).getD [] = [] <;>
          simp [Except.map, hempty, fs.absolute_child]

/-! ### The way up -/

/- The root directory is above itself, and the search that has found nothing there ends. -/
theorem discover_value (start : Path) :
    (discover fs start).value = (inDirectory fs start).value.bind fun found =>
      found.elim (discover fs start.parent).value fun path => .ok (some path) := by
  cases start using Path.childInduction with
  | root anchor =>
    have hparent : Path.parent ⟨anchor, []⟩ = ⟨anchor, []⟩ := rfl
    rw [hparent, discover_root]
    rcases (inDirectory fs ⟨anchor, []⟩).value with fault | _ | path <;> rfl
  | child directory name =>
    rw [Path.parent_child]
    cases hvalue : (inDirectory fs (directory.child name)).value with
    | error fault =>
      rw [discover_child_of_decided (by simp [hvalue]), hvalue]
      rfl
    | ok found =>
      cases found with
      | none =>
        rw [discover_child_of_none hvalue, Noted.value_bind]
        rfl
      | some path =>
        rw [discover_child_of_decided (by simp [hvalue]), hvalue]
        rfl

/-- From the current directory on, the search from the root's path goes on alone. -/
theorem discover_absolute (h : fs.locate fs.currentPath = .ok fs.current) {start : Path}
    (hstart : start.anchor = .current) :
    (discover fs (fs.absolute start)).value = (discover fs start).value.bind fun found =>
      found.elim (discover fs fs.currentPath.parent).value fun path =>
        .ok (some (fs.absolute path)) := by
  induction start using Path.childInduction with
  | root anchor =>
    cases hstart
    have hcurrent : fs.absolute ⟨.current, []⟩ = fs.currentPath := by
      simp [FileSystem.absolute, FileSystem.currentPath]
    rw [discover_value, inDirectory_absolute h, discover_root, hcurrent]
    rcases (inDirectory fs ⟨.current, []⟩).value with fault | _ | path <;> rfl
  | child directory name ih =>
    have habove := ih hstart
    rw [discover_value, inDirectory_absolute h, discover_value (directory.child name),
      FileSystem.absolute_child, Path.parent_child, Path.parent_child, habove]
    rcases (inDirectory fs (directory.child name)).value with fault | _ | path <;> rfl

theorem discover_absolute_of_above (h : fs.locate fs.currentPath = .ok fs.current) {start : Path}
    (hstart : start.anchor = .current)
    (habove : (discover fs start).value = .ok none →
      (discover fs fs.currentPath.parent).value = .ok none) :
    (discover fs (fs.absolute start)).value =
      (discover fs start).value.map (Option.map fs.absolute) := by
  rw [discover_absolute h hstart]
  cases hvalue : (discover fs start).value with
  | error fault => rfl
  | ok found =>
    cases found with
    | none => exact habove hvalue
    | some path => rfl

theorem exists_place_of_discover {start path : Path}
    (h : (discover fs start).value = .ok (some path)) :
    ∃ place directory name, fs.locate path = .ok place ∧ path = Path.child directory name := by
  obtain ⟨steps, -, hthere⟩ := discover_some h
  obtain ⟨hfile, hchild⟩ := inDirectory_some hthere
  obtain ⟨place, hplace⟩ := FileSystem.exists_locate_of_isFile hfile
  rcases hchild with rfl | ⟨-, rfl⟩ <;> exact ⟨place, _, _, hplace, rfl⟩

/-- The search from the root's path finds the same unless it goes on above the current directory and
finds something there. -/
theorem sameFound_absolute_iff (h : fs.locate fs.currentPath = .ok fs.current) {start : Path}
    (hstart : start.anchor = .current) :
    SameFound fs (discover fs start).value (discover fs (fs.absolute start)).value ↔
      ((discover fs start).value = .ok none →
        (discover fs fs.currentPath.parent).value = .ok none) := by
  constructor
  · intro hsame hvalue
    rw [discover_absolute h hstart, hvalue] at hsame
    rcases habove : (discover fs fs.currentPath.parent).value with fault | _ | path
    · simp [SameFound, Except.bind, habove] at hsame
    · rfl
    · simp [SameFound, Except.bind, habove] at hsame
  · intro habove
    rw [discover_absolute_of_above h hstart habove]
    rcases hvalue : (discover fs start).value with fault | _ | path
    · exact rfl
    · exact trivial
    · obtain ⟨place, -, -, hplace, -⟩ := exists_place_of_discover hvalue
      exact ⟨place, hplace, (fs.locate_absolute h path).trans hplace⟩

end SettingsFile

namespace Settings

open SettingsFile

/-- Two results are the same settings, the same fault, or both an error about the settings, which
names its file in the way that it was written. -/
def SameResult : Except ResolveError Settings → Except ResolveError Settings → Prop
  | .ok s, .ok other => s = other
  | .error (.undecodable fault), .error (.undecodable other) => fault = other
  | .error (.settings _), .error (.settings _) => True
  | _, _ => False

theorem SameResult.refl (x : Except ResolveError Settings) : SameResult x x := by
  rcases x with (fault | e) | s
  · exact rfl
  · exact trivial
  · exact rfl

variable {fs : FileSystem}

/-! ### Settings -/

theorem sameResult_ofLayers (place other : String) (table : Option SettingsTable)
    (env : Environment) :
    SameResult ((ofLayers place table env).mapError .settings)
      ((ofLayers other table env).mapError .settings) := by
  by_cases htable : (table.getD []).Valid
  · rw [ofLayers_of_valid_table place env htable, ofLayers_of_valid_table other env htable]
    exact SameResult.refl _
  · have hnot : ¬Valid (table.getD []) env := fun hvalid => htable hvalid.table
    obtain ⟨e, he⟩ := ofLayers_of_not_valid place hnot
    obtain ⟨e', he'⟩ := ofLayers_of_not_valid other hnot
    rw [he, he']
    exact trivial

theorem chooseFile_start (fs : FileSystem) (start : Path) (useEnvironment : Bool) :
    chooseFile fs { start := some start, useEnvironment } = discover fs start :=
  rfl

theorem resolve_value_congr {start other : Path}
    (h : (discover fs start).value = (discover fs other).value) (env : Environment)
    (useEnvironment : Bool) :
    (resolve fs env { start := some start, useEnvironment }).value =
      (resolve fs env { start := some other, useEnvironment }).value := by
  simp only [resolve, chooseFile_start, Noted.value_bind, h]

theorem resolve_of_found_none {start : Path} (h : (discover fs start).value = .ok none)
    (env : Environment) (useEnvironment : Bool) :
    (resolve fs env { start := some start, useEnvironment }).value =
      finish env useEnvironment {} := by
  simp only [resolve, chooseFile_start, Noted.value_bind, h]
  rfl

/- The file that is found has the same name in both paths, so its settings are looked for in the same
place. -/
theorem chosenTable_absolute (h : fs.locate fs.currentPath = .ok fs.current) {start : Path}
    (hstart : start.anchor = .current)
    (habove : (discover fs start).value = .ok none →
      (discover fs fs.currentPath.parent).value = .ok none) (useEnvironment : Bool) :
    (chosenTable fs { start := some (fs.absolute start), useEnvironment }).map Prod.snd =
      (chosenTable fs { start := some start, useEnvironment }).map Prod.snd := by
  unfold chosenTable
  rw [chooseFile_start, chooseFile_start, discover_absolute_of_above h hstart habove]
  rcases hvalue : (discover fs start).value with fault | _ | path
  · rfl
  · rfl
  · obtain ⟨-, directory, name, -, rfl⟩ := exists_place_of_discover hvalue
    have hload := load_absolute h (directory.child name)
    have hsettings (table : SettingsTable) : settings? (fs.absolute (directory.child name)) table =
        settings? (directory.child name) table := by
      rw [fs.absolute_child, settings?_child _ directory]
    simp only [Except.map, Option.map, hload]
    cases (load fs (directory.child name)).value with
    | error fault => rfl
    | ok table => exact congrArg Except.ok (hsettings table)

theorem sameResult_of_chosen {r other : Request} (huse : r.useEnvironment = other.useEnvironment)
    (h : (chosenTable fs r).map Prod.snd = (chosenTable fs other).map Prod.snd)
    (env : Environment) : SameResult (resolve fs env r).value (resolve fs env other).value := by
  cases hr : chosenTable fs r with
  | error fault =>
    have hother : chosenTable fs other = .error fault := by
      cases hother : chosenTable fs other with
      | error fault' => simpa [hr, hother, Except.map] using h.symm
      | ok chosen => simp [hr, hother, Except.map] at h
    rw [resolve_of_fault hr, resolve_of_fault hother]
    exact rfl
  | ok chosen =>
    obtain ⟨place, table⟩ := chosen
    obtain ⟨place', hother⟩ : ∃ place', chosenTable fs other = .ok (place', table) := by
      cases hother : chosenTable fs other with
      | error fault => simp [hr, hother, Except.map] at h
      | ok chosen =>
        have htable : table = chosen.2 := by simpa [hr, hother, Except.map] using h
        exact ⟨chosen.1, by rw [htable]⟩
    rw [resolve_of_chosen hr, resolve_of_chosen hother, huse]
    exact sameResult_ofLayers ..

/-- A search ends at the current directory if it starts from a path that begins there. Where the
current directory is in the tree, the path from the root for the same directory leads to the same
file, or to none or the same fault, exactly when the search finds something from the relative path
or finds nothing in the directories above the current one either. The settings are then the same in
every environment, made from the same table. Otherwise the search from the root's path is the one
from the directory above the current one, and there is no file for the relative path. -/
theorem relative_search_ends_at_current (fs : FileSystem)
    (hcurrent : fs.locate fs.currentPath = .ok fs.current) (start : Path)
    (hstart : start.anchor = .current) :
    (SameFound fs (discover fs start).value (discover fs (fs.absolute start)).value ↔
      ((discover fs start).value = .ok none →
        (discover fs fs.currentPath.parent).value = .ok none)) ∧
    (∀ useEnvironment,
      SameFound fs (discover fs start).value (discover fs (fs.absolute start)).value →
      (chosenTable fs { start := some (fs.absolute start), useEnvironment }).map Prod.snd =
          (chosenTable fs { start := some start, useEnvironment }).map Prod.snd ∧
        ∀ env, SameResult
          (resolve fs env { start := some (fs.absolute start), useEnvironment }).value
          (resolve fs env { start := some start, useEnvironment }).value) ∧
    ((discover fs start).value = .ok none →
      (discover fs (fs.absolute start)).value = (discover fs fs.currentPath.parent).value ∧
      ∀ env useEnvironment,
        (resolve fs env { start := some start, useEnvironment }).value =
            finish env useEnvironment {} ∧
          (resolve fs env { start := some (fs.absolute start), useEnvironment }).value =
            (resolve fs env { start := some fs.currentPath.parent, useEnvironment }).value) := by
  have hiff := sameFound_absolute_iff hcurrent hstart
  refine ⟨hiff, ?_, ?_⟩
  · intro useEnvironment hsame
    have htable := chosenTable_absolute hcurrent hstart (hiff.mp hsame) useEnvironment
    exact ⟨htable, sameResult_of_chosen rfl htable⟩
  · intro hnone
    have habove : (discover fs (fs.absolute start)).value =
        (discover fs fs.currentPath.parent).value := by
      rw [discover_absolute hcurrent hstart, hnone]
      rfl
    refine ⟨habove, ?_⟩
    intro env useEnvironment
    exact ⟨resolve_of_found_none hnone env useEnvironment,
      resolve_value_congr habove env useEnvironment⟩

/-- A file with the line `color=true` above the current directory, and an empty one in a directory
below it. -/
def ownAboveCurrent : FileSystem :=
  { entries :=
      [(["emphlog.toml"], .file [99, 111, 108, 111, 114, 61, 116, 114, 117, 101]),
        (["a"], .directory), (["a", "b"], .directory), (["a", "b", "emphlog.toml"], .file [])]
    current := ["a"] }

/- Two relative searches: one finds the file in its directory, the other ends without a file. -/
theorem relative_search_ends_at_current_below :
    SameFound ownAboveCurrent (discover ownAboveCurrent ⟨.current, ["b", "c"]⟩).value
        (discover ownAboveCurrent (Path.ofNames ["a", "b", "c"])).value ∧
      (discover ownAboveCurrent (Path.ofNames ["a", "c"])).value =
        (discover ownAboveCurrent (Path.ofNames [])).value := by
  have hcurrent : ownAboveCurrent.locate ownAboveCurrent.currentPath =
      .ok ownAboveCurrent.current := by decide +kernel
  have hfound : (discover ownAboveCurrent ⟨.current, ["b", "c"]⟩).value =
      .ok (some ⟨.current, ["b", "emphlog.toml"]⟩) := by decide +kernel
  have hnone : (discover ownAboveCurrent ⟨.current, ["c"]⟩).value = .ok none := by decide +kernel
  obtain ⟨hiff, -, -⟩ :=
    relative_search_ends_at_current ownAboveCurrent hcurrent ⟨.current, ["b", "c"]⟩ rfl
  obtain ⟨-, -, habove⟩ :=
    relative_search_ends_at_current ownAboveCurrent hcurrent ⟨.current, ["c"]⟩ rfl
  exact ⟨hiff.mpr fun hno => (nomatch hno.symm.trans hfound), (habove hnone).1⟩

/- The file above the current directory is found from the root's path and not from the relative one,
and so are its settings. -/
theorem relative_search_misses_file_above :
    (discover ownAboveCurrent ⟨.current, []⟩).value = .ok none ∧
    (discover ownAboveCurrent (ownAboveCurrent.absolute ⟨.current, []⟩)).value =
      .ok (some (Path.ofNames ["emphlog.toml"])) ∧
    (resolve ownAboveCurrent [] { start := some ⟨.current, []⟩ }).value = .ok {} ∧
    (resolve ownAboveCurrent [] { start := some (ownAboveCurrent.absolute ⟨.current, []⟩) }).value =
      .ok { colorMode := .always } := by
  have hnone : (discover ownAboveCurrent ⟨.current, []⟩).value = .ok none := by decide +kernel
  have hfound : (discover ownAboveCurrent (ownAboveCurrent.absolute ⟨.current, []⟩)).value =
      .ok (some (Path.ofNames ["emphlog.toml"])) := by decide +kernel
  have hload : load ownAboveCurrent (Path.ofNames ["emphlog.toml"]) =
      ⟨.ok [("color", .bool true)], []⟩ := by decide +kernel
  have hchosen : chosenTable ownAboveCurrent
      { start := some (ownAboveCurrent.absolute ⟨.current, []⟩) } =
        .ok ("/emphlog.toml", some [("color", .bool true)]) := by
    unfold chosenTable
    rw [chooseFile_start, hfound]
    simp only [hload]
    decide +kernel
  refine ⟨hnone, hfound, ?_, ?_⟩
  · rw [resolve_of_found_none hnone]
    decide +kernel
  · rw [resolve_of_chosen hchosen]
    decide +kernel

end Settings

end MarkupLog
