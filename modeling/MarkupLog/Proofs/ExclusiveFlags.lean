import MarkupLog.Proofs.ProgramOutput

/-!
# Flags that exclude each other

To ask for more and for fewer diagnostics at once is wrong usage. The flags are looked at only where
the environment leaves the level open, so with a level in the environment a run with both goes on.
The one other way to the exit code for wrong usage is a request of the command `log` that
contradicts itself.
-/

namespace MarkupLog.Cli

/-! ### Endings and output of a part -/

namespace Act

variable {α β : Type} {code : ExitCode} {x : Act α} {f : α → Act β}

/-- The run does not end with the code in this part. -/
def Avoids (code : ExitCode) (x : Act α) : Prop :=
  ∀ e, x.result = .error e → e.exitCode ≠ code

/-- What this part writes to the standard output. -/
def stdout (x : Act α) : String :=
  String.join (x.events.map Event.stdout)

/-- Nothing in this part is for the standard output. -/
def Silent (x : Act α) : Prop :=
  ∀ e ∈ x.events, e.stdout = ""

theorem Avoids.of_ok {a : α} (h : x.result = .ok a) : x.Avoids code := fun _ he =>
  nomatch h.symm.trans he

theorem Avoids.of_error {e : Ending} (h : x.result = .error e) (hcode : e.exitCode ≠ code) :
    x.Avoids code := fun e' he' => by
  cases h.symm.trans he'
  exact hcode

theorem Avoids.bind (hx : x.Avoids code) (hf : ∀ a, x.result = .ok a → (f a).Avoids code) :
    (x >>= f).Avoids code := by
  intro e he
  cases hresult : x.result with
  | error first =>
    rw [bind_of_error hresult] at he
    cases he
    exact hx _ hresult
  | ok a =>
    rw [bind_of_ok hresult] at he
    exact hf a hresult e he

theorem Silent.bind (hx : x.Silent) (hf : ∀ a, (f a).Silent) : (x >>= f).Silent := by
  cases hresult : x.result with
  | error e =>
    rw [bind_of_error hresult]
    exact hx
  | ok a =>
    rw [bind_of_ok hresult]
    intro e he
    rcases List.mem_append.mp he with hfirst | hsecond
    · exact hx e hfirst
    · exact hf a e hsecond

theorem Silent.stdout (h : x.Silent) : x.stdout = "" := by
  unfold Silent at h
  unfold Act.stdout
  generalize x.events = events at h
  induction events with
  | nil => rfl
  | cons e rest ih =>
    rw [List.forall_mem_cons] at h
    rw [List.map_cons, String.join_cons, h.1, ih h.2]
    rfl

theorem Avoids.ending {x : Act Unit} (h : x.Avoids .usage) : x.ending.exitCode ≠ .usage := by
  unfold Act.ending
  cases hresult : x.result with
  | error e => exact h e hresult
  | ok u => exact nofun

theorem noted_silent (x : Noted α) : (noted x).Silent := fun e he => by
  obtain ⟨r, -, rfl⟩ := List.mem_map.mp he
  rfl

end Act

open Act

variable {w : World} {words : List String} {i : Invocation}

/-! ### Preparing -/

theorem resolveSettings_spec (w : World) (o : ProgramOptions) :
    (resolveSettings w o).Avoids .usage ∧ (resolveSettings w o).Silent := by
  unfold resolveSettings
  refine ⟨Avoids.bind (.of_ok rfl) fun found _ => ?_, Silent.bind (noted_silent _) fun found => ?_⟩
  · rcases found with (fault | e) | s
    · exact .of_error rfl nofun
    · exact .of_error rfl nofun
    · exact .of_ok rfl
  · rcases found with (fault | e) | s <;> simp [Silent, Act.stop, Act.fail, Event.stdout]

theorem prepare_spec (w : World) (o : ProgramOptions) :
    (prepare w o).Avoids .usage ∧ (prepare w o).Silent := by
  unfold prepare
  obtain ⟨havoids, hsilent⟩ := resolveSettings_spec w o
  refine ⟨havoids.bind fun s _ => Avoids.bind (.of_ok rfl) fun _ _ => ?_,
    hsilent.bind fun s => Silent.bind ?_ fun _ => ?_⟩
  · cases ColorMode.decide (some (withOverrides s o).colorMode) w.env w.output with
    | ok useColor => exact .of_ok rfl
    | error e => exact .of_error rfl nofun
  · simp [Silent, Act.emit, Event.stdout]
  · cases ColorMode.decide (some (withOverrides s o).colorMode) w.env w.output <;>
      simp [Silent, Act.stop]

/-! ### Commands -/

/-- A request for a group on a channel that is not for information. -/
def LogRequest.Contradicts (r : LogRequest) : Prop :=
  r.category.isSome ∧ r.channel ≠ none ∧ r.channel ≠ some .info

theorem orRefuse_avoids {α : Type} (console : Console) (screen : Screen)
    (read : Except Refusal α) : (orRefuse console screen read).Avoids .usage := by
  rcases read with (_ | f) | a
  · exact .of_error rfl nofun
  · exact .of_error rfl nofun
  · exact .of_ok rfl

theorem read_of_orRefuse {α : Type} {console : Console} {screen : Screen}
    {read : Except Refusal α} {a : α} (h : (orRefuse console screen read).result = .ok a) :
    read = .ok a := by
  rcases read with (_ | f) | a'
  · exact nomatch h
  · exact nomatch h
  · exact congrArg Except.ok (Except.ok.inj h)

theorem ofEffect_avoids (e : Effect) : (ofEffect e).Avoids .usage := by
  unfold ofEffect
  cases e.reply with
  | ok reply => exact .of_ok rfl
  | error fault => exact .of_error rfl nofun

theorem runLog_avoids (p : Prepared) {r : LogRequest} (h : ¬r.Contradicts) :
    (runLog p r).Avoids .usage := by
  unfold runLog
  split_ifs with hrequest
  · exact absurd hrequest h
  · exact (ofEffect_avoids _).bind fun _ _ => ofEffect_avoids _

theorem forM_avoids {α : Type} {f : α → Act Unit} (hf : ∀ a, (f a).Avoids .usage)
    (items : List α) : (items.forM f).Avoids .usage := by
  induction items with
  | nil => exact .of_ok rfl
  | cons a rest ih =>
    show (f a >>= fun _ => rest.forM f).Avoids .usage
    exact (hf a).bind fun _ _ => ih

theorem runStrip_avoids (w : World) (p : Prepared) (texts : List String) :
    (runStrip w p texts).Avoids .usage := by
  unfold runStrip
  split_ifs
  · cases w.input with
    | ok text => exact .of_ok rfl
    | error fault => exact .of_error rfl nofun
  · exact forM_avoids (fun _ => .of_ok rfl) texts

/-- The command of an invocation is a request that contradicts itself, and the run comes to it. -/
def RefusesRequest (w : World) (i : Invocation) : Prop :=
  ∃ p words r, (prepare w i.options).result = .ok p ∧ i.command = some (.log, words) ∧
    LogRequest.read words = .ok r ∧ r.Contradicts

theorem runCommand_avoids (w : World) (p : Prepared) {c : Command}
    (h : ∀ r, c = .log → LogRequest.read words = .ok r → ¬r.Contradicts) :
    (runCommand w p c words).Avoids .usage := by
  cases c with
  | log =>
    exact (orRefuse_avoids _ _ _).bind fun r hr =>
      runLog_avoids p (h r rfl (read_of_orRefuse hr))
  | strip => exact (orRefuse_avoids _ _ _).bind fun texts _ => runStrip_avoids w p texts
  | version => exact (orRefuse_avoids _ _ _).bind fun _ _ => .of_ok rfl

theorem body_avoids (h : ¬RefusesRequest w i) : (body w i).Avoids .usage := by
  unfold body
  refine (prepare_spec w i.options).1.bind fun p hp => ?_
  cases hcommand : i.command with
  | none => exact .of_ok rfl
  | some command =>
    refine runCommand_avoids w p fun r hlog hread hcontradicts => h ?_
    exact ⟨p, command.2, r, hp, by rw [hcommand, ← hlog], hread, hcontradicts⟩

theorem body_of_refused (h : RefusesRequest w i) :
    (body w i).ending = .exit .usage ∧ (body w i).Silent := by
  obtain ⟨p, words, r, hprepare, hcommand, hread, hcontradicts⟩ := h
  have hlog : runCommand w p .log words = Act.fail categoryError := by
    unfold runCommand
    rw [hread]
    show runLog p r = Act.fail categoryError
    unfold runLog
    exact if_pos hcontradicts
  have hbody : body w i =
      ⟨(prepare w i.options).events ++ [.err categoryError.plainText], .error (.exit .usage)⟩ := by
    unfold body
    rw [bind_of_ok hprepare, hcommand]
    simp only [hlog]
    rfl
  rw [hbody]
  refine ⟨rfl, fun e he => ?_⟩
  rcases List.mem_append.mp he with hprepared | herror
  · exact (prepare_spec w i.options).2 e hprepared
  · rw [List.mem_singleton.mp herror]
    rfl

/-! ### Runs -/

theorem stdout_of_silent {x : Act Unit} (h : x.Silent) (r : Reporter) :
    (Run.ofAct r x).stdout = "" :=
  h.stdout

theorem chooseReporter_of_both {env : Environment} {o : ProgramOptions}
    (h : env.level = .ok none) (hverbose : 0 < o.verbose) (hquiet : 0 < o.quiet) :
    chooseReporter env o = Act.fail exclusiveError := by
  have hboth : (0 : Int) < o.verbose ∧ (0 : Int) < o.quiet := by omega
  have hlevel : diagnosticsLevel o.verbose o.quiet = .error exclusiveError := if_pos hboth
  unfold chooseReporter
  rw [h]
  simp only [hlevel]

theorem chooseReporter_of_error {env : Environment} {e : Environment.LevelError}
    (h : env.level = .error e) (o : ProgramOptions) :
    chooseReporter env o = Act.stop (.unhandled (.level e)) := by
  unfold chooseReporter
  rw [h]

theorem run_of_both_open (hread : Invocation.read w.files words = .ok i)
    (hlevel : w.env.level = .ok none) (hverbose : 0 < i.options.verbose)
    (hquiet : 0 < i.options.quiet) :
    run w words = { events := [.err exclusiveError.plainText], ending := .exit .usage } :=
  run_of_no_reporter hread (chooseReporter_of_both hlevel hverbose hquiet)

theorem run_of_level_error (hread : Invocation.read w.files words = .ok i)
    {e : Environment.LevelError} (hlevel : w.env.level = .error e) :
    run w words = { events := [], ending := .unhandled (.level e) } :=
  run_of_no_reporter hread (chooseReporter_of_error hlevel i.options)

theorem run_of_level (hread : Invocation.read w.files words = .ok i) {level : Int}
    (hlevel : w.env.level = .ok (some level)) :
    run w words = Run.ofAct (.ofLevel level) (body w i) :=
  run_of_reporter hread (chooseReporter_of_level hlevel i.options)

/-- What becomes of a run with flags for more and for fewer diagnostics at once. It is refused as
wrong usage, and writes nothing to the standard output, exactly when the environment leaves the
level open or sets it and the request contradicts itself. An open level is refused before anything
else is done. A level that is set stands, and the run is the one without these flags. A value that
cannot be read as a level ends the run. -/
theorem exclusive_flags_refused_iff (hread : Invocation.read w.files words = .ok i)
    (hverbose : 0 < i.options.verbose) (hquiet : 0 < i.options.quiet) :
    ((run w words).exitCode = .usage ∧ (run w words).stdout = "" ↔
      w.env.level = .ok none ∨
        (∃ level, w.env.level = .ok (some level)) ∧ RefusesRequest w i) ∧
    (w.env.level = .ok none →
      run w words = { events := [.err exclusiveError.plainText], ending := .exit .usage }) ∧
    (∀ level, w.env.level = .ok (some level) →
      run w words = Run.ofAct (.ofLevel level) (body w i.bare)) ∧
    ∀ e, w.env.level = .error e →
      run w words = { events := [], ending := .unhandled (.level e) } := by
  refine ⟨?_, fun hlevel => run_of_both_open hread hlevel hverbose hquiet,
    fun level hlevel => body_bare w i ▸ run_of_level hread hlevel,
    fun e hlevel => run_of_level_error hread hlevel⟩
  rcases hlevel : w.env.level with e | _ | level
  · rw [run_of_level_error hread hlevel]
    simp [Run.exitCode, Ending.exitCode]
  · rw [run_of_both_open hread hlevel hverbose hquiet]
    simp [Run.exitCode, Ending.exitCode, Run.stdout, Event.stdout]
  · -- With a level set, the code can only come from the request.
    rw [run_of_level hread hlevel]
    by_cases hrefuses : RefusesRequest w i
    · obtain ⟨hending, hsilent⟩ := body_of_refused hrefuses
      have hcode : (Run.ofAct (.ofLevel level) (body w i)).exitCode = .usage :=
        congrArg Ending.exitCode hending
      simp [hcode, stdout_of_silent hsilent, hrefuses]
    · have hcode : (Run.ofAct (.ofLevel level) (body w i)).exitCode ≠ .usage :=
        (body_avoids hrefuses).ending
      simp [hcode, hrefuses]

/- The environment is empty, and the flags are written in two ways. -/
theorem exclusive_flags_refused_open :
    let words := ["-vq", "--quiet", "version"]
    Invocation.read {} words = .ok ⟨⟨1, 2, false, none, none⟩, some (.version, [])⟩ ∧
      (run {} words).exitCode = .usage ∧ (run {} words).stdout = "" := by
  intro words
  have hread : Invocation.read {} words =
      .ok ⟨⟨1, 2, false, none, none⟩, some (.version, [])⟩ := by
    decide +kernel
  have hlevel : Environment.level [] = .ok none := by decide +kernel
  exact ⟨hread,
    (exclusive_flags_refused_iff (w := {}) hread (by decide) (by decide)).1.mpr (.inl hlevel)⟩

/- The environment sets the level: the version is written. -/
theorem level_admits_both_flags :
    let leveled : World := { env := [("EMPHLOG_LOG_LEVEL", "ERROR")] }
    let words := ["-v", "-q", "version"]
    Invocation.read {} words = .ok ⟨⟨1, 1, false, none, none⟩, some (.version, [])⟩ ∧
      (run leveled words).exitCode = .success ∧ (run leveled words).stdout ≠ "" := by
  intro leveled words
  have hread : Invocation.read {} words =
      .ok ⟨⟨1, 1, false, none, none⟩, some (.version, [])⟩ := by
    decide +kernel
  have hlevel : leveled.env.level = .ok (some Level.error) := by decide +kernel
  rw [run_of_level (w := leveled) hread hlevel]
  refine ⟨hread, ?_, ?_⟩
  · decide +kernel
  · decide +kernel

end MarkupLog.Cli
