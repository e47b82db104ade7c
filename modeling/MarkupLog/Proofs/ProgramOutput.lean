import Mathlib.Tactic.SplitIfs
import MarkupLog.Cli.Commands
import MarkupLog.Proofs.DiagnosticFlags

/-!
# Program output and diagnostics

The flags for diagnostics and the level in the environment choose the reporter of a run and nothing
else. Whatever is noted on the way, the run does the same: it writes the same texts in the same
order and ends in the same way, so its output and its exit code are the same.
-/

namespace MarkupLog

/-! ### Environments -/

/-- The environments differ at most in the level of diagnostics. -/
def Environment.DifferInLevel (env other : Environment) : Prop :=
  ∀ name, name ≠ levelVariable → env.get? name = other.get? name

section

variable {env other : Environment}

theorem environmentSteps_congr (h : env.DifferInLevel other) :
    environmentSteps env = environmentSteps other := by
  simp only [environmentSteps, Environment.nonempty?, h "EMPHLOG_PREFIX" (by decide),
    h "EMPHLOG_COLOR" (by decide), h "EMPHLOG_VERBOSE" (by decide),
    h "EMPHLOG_BATCH_MODE" (by decide)]

theorem colorPreference_congr (h : env.DifferInLevel other) :
    env.colorPreference = other.colorPreference := by
  have hforce : env.nonempty? "FORCE_COLOR" = other.nonempty? "FORCE_COLOR" := by
    simp only [Environment.nonempty?, h "FORCE_COLOR" (by decide)]
  have hno : env.has "NO_COLOR" = other.has "NO_COLOR" := by
    simp only [Entries.has, h "NO_COLOR" (by decide)]
  unfold Environment.colorPreference
  rw [hforce, hno]

theorem Settings.resolve_environment_congr (h : env.DifferInLevel other) (fs : FileSystem)
    (r : Settings.Request) : Settings.resolve fs env r = Settings.resolve fs other r := by
  have hfinish (d : Draft) : finish env r.useEnvironment d = finish other r.useEnvironment d := by
    simp only [finish, Draft.mergeEnvironment, environmentSteps_congr h]
  simp only [resolve, hfinish]

theorem ColorMode.decide_environment_congr (h : env.DifferInLevel other) (mode : Option ColorMode)
    (output : Terminal.Probe) : decide mode env output = decide mode other output := by
  simp only [decide, colorPreference_congr h]

end

namespace Cli

variable {w : World} {env : Environment} {words other : List String} {i : Invocation}

/-! ### What a run does -/

theorem prepare_environment_congr (h : w.env.DifferInLevel env) (o : ProgramOptions) :
    prepare w o = prepare { w with env } o := by
  simp only [prepare, resolveSettings, Settings.resolve_environment_congr h,
    ColorMode.decide_environment_congr h]

theorem body_bare (w : World) (i : Invocation) : body w i.bare = body w i := rfl

theorem body_environment_congr (h : w.env.DifferInLevel env) (i : Invocation) :
    body w i = body { w with env } i := by
  unfold body
  rw [prepare_environment_congr h]
  rfl

/-! ### Runs -/

theorem run_of_refused {refusal : Refusal} (h : Invocation.read w.files words = .error refusal)
    (hother : Invocation.read w.files other = .error refusal) :
    run w words = run { w with env } other := by
  unfold run
  rw [h, hother]
  cases refusal <;> rfl

theorem run_of_no_reporter (h : Invocation.read w.files words = .ok i) {events : List Event}
    {ending : Ending} (hr : chooseReporter w.env i.options = ⟨events, .error ending⟩) :
    run w words = ⟨{}, events, ending⟩ := by
  unfold run
  rw [h]
  simp only [orRefuse, Act.result_pure, hr]

theorem run_of_reporter (h : Invocation.read w.files words = .ok i) {r : Reporter}
    (hr : chooseReporter w.env i.options = pure r) : run w words = Run.ofAct r (body w i) := by
  unfold run
  rw [h]
  simp only [orRefuse, Act.result_pure, hr]

/-- A command line that does not ask for both more and fewer diagnostics. -/
def AsksOneWay (fs : FileSystem) (words : List String) : Prop :=
  ∀ i, Invocation.read fs words = .ok i → i.options.verbose = 0 ∨ i.options.quiet = 0

theorem AsksOneWay.of_read {fs : FileSystem} (h : Invocation.read fs words = .ok i)
    (hway : i.options.verbose = 0 ∨ i.options.quiet = 0) : AsksOneWay fs words := by
  intro j hj
  cases h.symm.trans hj
  exact hway

theorem diagnosticsLevel_ok {verbose quiet : Nat} (h : verbose = 0 ∨ quiet = 0) :
    ∃ level, diagnosticsLevel verbose quiet = .ok level := by
  have hboth : ¬((0 : Int) < verbose ∧ (0 : Int) < quiet) := by omega
  unfold diagnosticsLevel
  rw [if_neg hboth]
  split_ifs <;> exact ⟨_, rfl⟩

theorem chooseReporter_of_level {level : Int} (h : env.level = .ok (some level))
    (o : ProgramOptions) : chooseReporter env o = pure (.ofLevel level) := by
  unfold chooseReporter
  rw [h]

theorem chooseReporter_ok {o : ProgramOptions} (hlevel : ∃ level, env.level = .ok level)
    (honce : o.verbose = 0 ∨ o.quiet = 0) : ∃ r, chooseReporter env o = pure r := by
  obtain ⟨level, hlevel⟩ := hlevel
  cases level with
  | some level => exact ⟨_, chooseReporter_of_level hlevel o⟩
  | none =>
    obtain ⟨level, hasked⟩ := diagnosticsLevel_ok honce
    unfold chooseReporter
    rw [hlevel]
    simp only [hasked]
    exact ⟨_, rfl⟩

/-- Diagnostics never reach the output. Two runs that differ only in the flags for diagnostics and
in the level of the environment write the same to the standard output and end with the same code.
The same happens in both, step by step; only which records are shown can differ. -/
theorem diagnostics_leave_output (hwords : DifferInFlags words other)
    (henv : w.env.DifferInLevel env) (hlevel : ∃ level, w.env.level = .ok level)
    (hlevel' : ∃ level, env.level = .ok level) (hway : AsksOneWay w.files words)
    (hway' : AsksOneWay w.files other) :
    (run w words).stdout = (run { w with env } other).stdout ∧
      (run w words).exitCode = (run { w with env } other).exitCode ∧
      (run w words).events = (run { w with env } other).events := by
  rcases map_eq_map_cases (read_differInFlags hwords w.files) with
    ⟨refusal, hread, hread'⟩ | ⟨i, j, hread, hread', hbare⟩
  · rw [run_of_refused hread hread']
    exact ⟨rfl, rfl, rfl⟩
  · obtain ⟨r, hr⟩ := chooseReporter_ok hlevel (hway i hread)
    obtain ⟨r', hr'⟩ := chooseReporter_ok hlevel' (hway' j hread')
    have hbody : body w i = body { w with env } j := by
      rw [← body_bare, hbare, body_bare, body_environment_congr henv]
    have hrun : run w words = Run.ofAct r (body w i) := run_of_reporter hread hr
    have hrun' : run { w with env } other = Run.ofAct r' (body { w with env } j) :=
      run_of_reporter (w := { w with env }) hread' hr'
    rw [hrun, hrun', hbody]
    exact ⟨rfl, rfl, rfl⟩

/- Diagnostics for finding faults against those about errors alone. -/
theorem diagnostics_leave_output_debug_or_errors :
    let silent : World := { env := [("EMPHLOG_LOG_LEVEL", "error")] }
    let words := ["-vv", "log", "--level", "warn", "done"]
    let other := ["-q", "log", "--level", "warn", "done"]
    (DifferInFlags words other ∧ Environment.DifferInLevel [] silent.env) ∧
    (Environment.level [] = .ok none ∧ silent.env.level = .ok (some Level.error)) ∧
    (AsksOneWay {} words ∧ AsksOneWay {} other) ∧
    ((run {} words).reporter = .ofLevel Level.debug ∧
      (run silent other).reporter = .ofLevel Level.error) ∧
    (run {} words).stdout = (run silent other).stdout ∧
      (run {} words).exitCode = (run silent other).exitCode ∧
      (run {} words).events = (run silent other).events := by
  intro silent words other
  have hread : Invocation.read {} words =
      .ok ⟨⟨2, 0, false, none, none⟩, some (.log, ["--level", "warn", "done"])⟩ := by
    decide +kernel
  have hread' : Invocation.read {} other =
      .ok ⟨⟨0, 1, false, none, none⟩, some (.log, ["--level", "warn", "done"])⟩ := by
    decide +kernel
  have henv : Environment.DifferInLevel [] silent.env := fun name hname =>
    (if_neg (Ne.symm hname)).symm
  have hlevel : Environment.level [] = .ok none := by decide +kernel
  have hlevel' : silent.env.level = .ok (some Level.error) := by decide +kernel
  have hwords : DifferInFlags words other := by
    have hone : AddsFlag (words.drop 1) ("-v" :: words.drop 1) := .word (by decide)
    have htwo : AddsFlag ("-v" :: words.drop 1) words :=
      @AddsFlag.letter 'v' ['v'] [] _ (by decide) (by decide) (by decide)
    have hquiet : AddsFlag (words.drop 1) other := .word (by decide)
    have hequiv : Equivalence DifferInFlags := Relation.EqvGen.is_equivalence AddsFlag
    exact hequiv.trans (hequiv.symm (hequiv.trans (.rel _ _ hone) (.rel _ _ htwo)))
      (.rel _ _ hquiet)
  have hway : AsksOneWay {} words := .of_read hread (.inr rfl)
  have hway' : AsksOneWay {} other := .of_read hread' (.inl rfl)
  have hsame := diagnostics_leave_output (w := {}) hwords henv ⟨_, hlevel⟩ ⟨_, hlevel'⟩ hway hway'
  have hrun := run_of_reporter (w := {}) hread (r := .ofLevel Level.debug) rfl
  have hrun' := run_of_reporter (w := silent) hread' (chooseReporter_of_level hlevel' _)
  have hreporters := And.intro (congrArg Run.reporter hrun) (congrArg Run.reporter hrun')
  exact ⟨⟨hwords, henv⟩, ⟨hlevel, hlevel'⟩, ⟨hway, hway'⟩, hreporters, hsame⟩

end Cli

end MarkupLog
