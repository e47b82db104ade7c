import Mathlib.Order.Defs.PartialOrder
import Mathlib.Tactic.ByContra
import MarkupLog.Proofs.NearestFile

/-!
# Farther files

The search looks at a directory only when it has found nothing in the directories below it, and the
settings are then read from the file that it found. So the files above the one that is found have no
influence: neither on the settings or the error about them, nor on what is noted.
-/

namespace MarkupLog

theorem Noted.bind_congr {α β : Type} {x : Noted α} {f g : α → Noted β}
    (h : f x.value = g x.value) : x >>= f = x >>= g := by
  simp only [bind, h]

/-- Two trees hold the same file at a path, or neither holds a file there. Of two files that cannot
be read nothing can be told apart. -/
def FileSystem.SameFile (fs other : FileSystem) (path : Path) : Prop :=
  fs.isFile path = other.isFile path ∧ (fs.isFile path = true → fs.read path = other.read path)

instance (fs other : FileSystem) (path : Path) : Decidable (fs.SameFile other path) :=
  inferInstanceAs (Decidable (_ ∧ _))

namespace SettingsFile

variable {fs other : FileSystem} {directory start path : Path}

/-! ### One directory -/

theorem load_congr (h : fs.SameFile other path) (hfile : fs.isFile path = true) :
    load fs path = load other path := by
  rw [load, load, h.2 hfile]

theorem sharedCounts_congr (h : fs.SameFile other path) :
    sharedCounts fs path = sharedCounts other path := by
  unfold sharedCounts
  rw [← h.1]
  cases hthere : fs.isFile path with
  | false => rfl
  | true => rw [load_congr h hthere]

/-- What is found in a directory depends on the program's own file in it, and without that on the
shared one. -/
theorem inDirectory_congr (hown : fs.SameFile other (directory.child Program.settingsFile))
    (hshared : fs.isFile (directory.child Program.settingsFile) = false →
      fs.SameFile other (directory.child Program.projectFile)) :
    inDirectory fs directory = inDirectory other directory := by
  simp only [inDirectory, ← hown.1]
  cases hthere : fs.isFile (directory.child Program.settingsFile) with
  | true => rfl
  | false => simp only [Bool.false_eq_true, if_false, sharedCounts_congr (hshared hthere)]

theorem inDirectory_some (h : (inDirectory fs directory).value = .ok (some path)) :
    fs.isFile path = true ∧
      (path = directory.child Program.settingsFile ∨
        fs.isFile (directory.child Program.settingsFile) = false ∧
          path = directory.child Program.projectFile) := by
  cases hown : fs.isFile (directory.child Program.settingsFile) with
  | true =>
    rw [inDirectory_of_own hown] at h
    cases h
    exact ⟨hown, .inl rfl⟩
  | false =>
    rcases inDirectory_of_no_own hown with ⟨-, -, fault, hvalue⟩ | ⟨hshared, -, -, hvalue⟩ |
      ⟨-, hvalue⟩
    · rw [hvalue] at h
      cases h
    · rw [hvalue] at h
      cases h
      exact ⟨hshared, .inr ⟨rfl, rfl⟩⟩
    · rw [hvalue] at h
      cases h

/-! ### The way up -/

/-- The search looks into the directory that many steps above its start. -/
def Reaches (fs : FileSystem) (start : Path) (steps : Nat) : Prop :=
  ∀ fewer < steps, (inDirectory fs (Path.parent^[fewer] start)).value = .ok none

theorem reaches_zero (fs : FileSystem) (start : Path) : Reaches fs start 0 :=
  fun _ hfewer => absurd hfewer (Nat.not_lt_zero _)

theorem reaches_child {name : String} {steps : Nat}
    (hnone : (inDirectory fs (directory.child name)).value = .ok none)
    (h : Reaches fs directory steps) : Reaches fs (directory.child name) (steps + 1) := by
  intro fewer hfewer
  cases fewer with
  | zero => exact hnone
  | succ fewer =>
    rw [Function.iterate_succ_apply, Path.parent_child]
    exact h fewer (Nat.lt_of_succ_lt_succ hfewer)

/- By induction on the way up: above a directory that is not reached nothing matters. -/
theorem discover_congr (h : ∀ steps, Reaches fs start steps →
    inDirectory fs (Path.parent^[steps] start) = inDirectory other (Path.parent^[steps] start)) :
    discover fs start = discover other start := by
  induction start using Path.childInduction with
  | root anchor =>
    rw [discover_root, discover_root]
    exact h 0 (reaches_zero _ _)
  | child directory name ih =>
    have hhere : inDirectory fs (directory.child name) = inDirectory other (directory.child name) :=
      h 0 (reaches_zero _ _)
    by_cases hnone : (inDirectory fs (directory.child name)).value = .ok none
    · have habove : discover fs directory = discover other directory := ih fun steps hreaches => by
        have hstep := h (steps + 1) (reaches_child hnone hreaches)
        rwa [Function.iterate_succ_apply, Path.parent_child] at hstep
      rw [discover_child_of_none hnone, discover_child_of_none (hhere ▸ hnone), hhere, habove]
    · rw [discover_child_of_decided hnone, discover_child_of_decided (hhere ▸ hnone), hhere]

theorem discover_some (h : (discover fs start).value = .ok (some path)) :
    ∃ steps, Reaches fs start steps ∧
      (inDirectory fs (Path.parent^[steps] start)).value = .ok (some path) := by
  induction start using Path.childInduction with
  | root anchor =>
    rw [discover_root] at h
    exact ⟨0, reaches_zero _ _, h⟩
  | child directory name ih =>
    by_cases hnone : (inDirectory fs (directory.child name)).value = .ok none
    · rw [discover_child_of_none hnone] at h
      obtain ⟨steps, hreaches, hvalue⟩ := ih h
      refine ⟨steps + 1, reaches_child hnone hreaches, ?_⟩
      rw [Function.iterate_succ_apply, Path.parent_child]
      exact hvalue
    · rw [discover_child_of_decided hnone] at h
      exact ⟨0, reaches_zero _ _, h⟩

end SettingsFile

/-! ### Settings -/

namespace Settings

open SettingsFile

variable {fs other : FileSystem} {start path : Path}

theorem withFile_congr (h : load fs path = load other path) :
    withFile fs (some path) = withFile other (some path) := by
  simp only [withFile, mergeFile, h]

theorem resolve_congr (hdiscover : discover fs start = discover other start)
    (hfound : (discover fs start).value = .ok (some path)) (hload : load fs path = load other path)
    (env : Environment) (useEnvironment : Bool) :
    resolve fs env { start := some start, useEnvironment } =
      resolve other env { start := some start, useEnvironment } := by
  simp only [resolve, chooseFile, Option.getD_some, ← hdiscover]
  refine Noted.bind_congr ?_
  simp only [hfound, withFile_congr hload]

/-- Files above the one that is found have no influence. Two trees hold the same files from the
start up to the directory in which the search ends, but for the shared file of that directory if it
is the program's own file that is found. Then the settings or the error about them are the same, and
so is what is noted, for every environment. -/
theorem farther_files_ignored {last : Nat} (hfound : (discover fs start).value = .ok (some path))
    (hlast : Path.parent^[last] start = path.parent)
    (hown : ∀ steps ≤ last,
      fs.SameFile other ((Path.parent^[steps] start).child Program.settingsFile))
    (hshared : ∀ steps ≤ last,
      (steps = last → path ≠ (Path.parent^[last] start).child Program.settingsFile) →
        fs.SameFile other ((Path.parent^[steps] start).child Program.projectFile))
    (env : Environment) (useEnvironment : Bool) :
    resolve fs env { start := some start, useEnvironment } =
      resolve other env { start := some start, useEnvironment } := by
  obtain ⟨first, hreaches, hvalue⟩ := discover_some hfound
  obtain ⟨hfile, hplace⟩ := inDirectory_some hvalue
  have hfirst : Path.parent^[first] start = Path.parent^[last] start := by
    rw [hlast]
    rcases hplace with h | ⟨-, h⟩ <;> rw [h, Path.parent_child]
  have hfirst_le : first ≤ last := by
    by_contra hlt
    have hnone := hreaches last (by omega)
    rw [← hfirst, hvalue] at hnone
    cases hnone
  have hdiscover : discover fs start = discover other start := by
    refine discover_congr fun steps hsteps => ?_
    have hsteps_le : steps ≤ first := by
      by_contra hlt
      have hnone := hsteps first (by omega)
      rw [hvalue] at hnone
      cases hnone
    refine inDirectory_congr (hown steps (by omega)) fun hno => hshared steps (by omega) ?_
    rintro rfl rfl
    exact nomatch hno.symm.trans hfile
  have hsame : fs.SameFile other path := by
    rcases hplace with h | ⟨hno, h⟩
    · rw [h, hfirst]
      exact hown last le_rfl
    · rw [hfirst] at hno h
      rw [h]
      refine hshared last le_rfl fun _ hown' => ?_
      rw [hown'] at hfile
      exact nomatch hno.symm.trans hfile
  exact resolve_congr hdiscover hfound (load_congr hsame hfile) env useEnvironment

/- A shared file with a table, found above a directory that is not there. The trees differ in the
file above the shared one: it is empty, or it holds a byte that is no text. -/
theorem farther_files_ignored_undecodable :
    (discover (ownAboveShared [] tableText) (Path.ofNames ["a", "b"])).value =
      .ok (some (Path.ofNames ["a", "pyproject.toml"])) ∧
    resolve (ownAboveShared [] tableText) [("EMPHLOG_COLOR", "no")]
        { start := some (Path.ofNames ["a", "b"]) } =
      resolve (ownAboveShared [0xFF] tableText) [("EMPHLOG_COLOR", "no")]
        { start := some (Path.ofNames ["a", "b"]) } := by
  have hown : ∀ steps ≤ 1, (ownAboveShared [] tableText).SameFile (ownAboveShared [0xFF] tableText)
      ((Path.parent^[steps] (Path.ofNames ["a", "b"])).child Program.settingsFile) := by
    decide +kernel
  have hshared : ∀ steps ≤ 1,
      (ownAboveShared [] tableText).SameFile (ownAboveShared [0xFF] tableText)
        ((Path.parent^[steps] (Path.ofNames ["a", "b"])).child Program.projectFile) := by
    decide +kernel
  exact ⟨discover_ownAboveShared, farther_files_ignored discover_ownAboveShared rfl hown
    (fun steps hsteps _ => hshared steps hsteps) [("EMPHLOG_COLOR", "no")] true⟩

end Settings

end MarkupLog
