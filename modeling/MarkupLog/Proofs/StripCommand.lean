import MarkupLog.Proofs.Content
import MarkupLog.Proofs.ExclusiveFlags
import MarkupLog.Proofs.LineByLine
import MarkupLog.Proofs.Operands

/-!
# Three ways to remove markup

Without color the command `strip` writes the same for texts on the command line and for their lines
in the input, and `log` with an empty lead writes the same text by text. The input is read as one
text, where a region can be open at the end of a line; the other ways read each text by itself.
-/

namespace MarkupLog

open Terminal Text

/-! ### Info lines without color -/

namespace Session

/- A message without arguments is its own text. -/
theorem effect_info (setup : Logger.Setup) (debugMode : Bool) (c : Console) (text : String)
    (hcolor : setup.useColor = false) :
    ((start setup (.console debugMode c)).1.step (.call .main (.info ⟨text, []⟩))).2 =
      { deliveries := [.printed .stdout (c.written (setup.lead ++ Markup.strip text))] } := by
  have hagrees : (start setup (.console debugMode c)).1.sink.Agrees (.console debugMode c) :=
    Sink.Agrees.settled _ _
  have hplain : (Logger.build setup).1.inColor (Sink.console debugMode c).view = false := by
    show (setup.useColor && _) = false
    rw [hcolor, Bool.false_and]
  have hline := Logger.coloredLine_plain _ _ setup.palette.info text hplain
  show effectOf (start setup (.console debugMode c)).1.sink ((Logger.build setup).1.call
    (start setup (.console debugMode c)).1.sink.view {} (.info ⟨text, []⟩)) = _
  rw [hagrees.effectOf, hagrees.view]
  show effectOf _ { lines := [(.info, (Logger.build setup).1.coloredLine
    (Sink.console debugMode c).view setup.palette.info text)], asked := _, progress := _ } = _
  rw [hline]
  rfl

end Session

namespace Cli

namespace Act

variable {α β : Type} {x : Act α} {f : α → Act β} {a : α} {b : β} {text behind : String}

/-- This part gives a result and writes a text to the standard output. -/
structure Yields (x : Act α) (a : α) (text : String) : Prop where
  result : x.result = .ok a
  stdout : x.stdout = text

theorem Yields.pure (a : α) : (Pure.pure a : Act α).Yields a "" :=
  ⟨rfl, rfl⟩

theorem Yields.bind (hx : x.Yields a text) (hf : (f a).Yields b behind) :
    (x >>= f).Yields b (text ++ behind) := by
  rw [bind_of_ok hx.result]
  refine ⟨hf.result, ?_⟩
  have hevents : (x.events ++ (f a).events).map Event.stdout =
      x.events.map Event.stdout ++ (f a).events.map Event.stdout := List.map_append
  show String.join ((x.events ++ (f a).events).map Event.stdout) = _
  rw [hevents, String.join_append]
  exact congrArg₂ (· ++ ·) hx.stdout hf.stdout

theorem Yields.bind_silent (hresult : x.result = .ok a) (hsilent : x.Silent)
    (hf : (f a).Yields b text) : (x >>= f).Yields b text := by
  have hx : x.Yields a "" := ⟨hresult, hsilent.stdout⟩
  rw [← String.empty_append (s := text)]
  exact hx.bind hf

theorem Yields.forM {items : List α} {f : α → Act Unit} {g : α → String}
    (h : ∀ a, (f a).Yields () (g a)) : (items.forM f).Yields () (String.join (items.map g)) := by
  induction items with
  | nil => exact .pure ()
  | cons a rest ih =>
    rw [List.map_cons, String.join_cons]
    exact (h a).bind ih

theorem print_yields (c : Console) (text : String) (newline : Bool) :
    (print c text newline).Yields () (c.written text newline) := by
  refine ⟨rfl, ?_⟩
  show String.join [c.written text newline] = _
  simp

end Act

open Act

variable {w : World} {options words texts : List String} {o : ProgramOptions} {p : Prepared}

/-! ### Parts of a run -/

theorem written_line {c : Console} (hc : c.color = false) (text : String) :
    c.written text = unstyled text ++ "\n" := by
  rw [← linewise_unstyled.newline]
  unfold Console.written
  rw [hc]
  rfl

theorem written_part {c : Console} (hc : c.color = false) (text : String) :
    c.written text false = unstyled text := by
  unfold Console.written
  rw [hc]
  rfl

theorem orRefuse_bind {α : Type} (console : Console) (screen : Screen) (a : α)
    (f : α → Act Unit) : (orRefuse console screen (.ok a) >>= f) = f a := by
  rw [bind_of_ok (rfl : (orRefuse console screen (.ok a)).result = .ok a)]
  rfl

theorem strip_operands (w : World) (hcolor : p.useColor = false) (hwords : Gives words texts)
    (htexts : texts ≠ []) : (runCommand w p .strip words).Yields ()
      (lines (texts.map fun t => unstyled (Markup.strip t))) := by
  have hprint (t : String) : (Act.print p.console (Markup.strip t)).Yields ()
      (unstyled (Markup.strip t) ++ "\n") := by
    rw [← written_line (c := p.console) hcolor]
    exact print_yields ..
  have hcommand : runCommand w p .strip words = runStrip w p texts := by
    unfold runCommand
    rw [readOperands_gives hwords]
    exact orRefuse_bind ..
  have hempty : texts.isEmpty = false := List.isEmpty_eq_false_iff.mpr htexts
  rw [hcommand, runStrip, hempty, lines, List.map_map]
  exact Yields.forM hprint

theorem strip_input (hcolor : p.useColor = false) {text : String} (hinput : w.input = .ok text)
    (hreturn : ∀ c ∈ text.toList, c ≠ '\r') :
    (runCommand w p .strip []).Yields () (unstyled (Markup.strip text)) := by
  have hplain : plainLines text = text := by
    unfold plainLines
    rw [withLineFeeds_of_no_return _ hreturn, String.ofList_toList]
  have hcommand : runCommand w p .strip [] = Act.print p.console (Markup.strip text) false := by
    unfold runCommand
    rw [readOperands_gives .nil]
    refine (orRefuse_bind ..).trans ?_
    unfold runStrip
    simp only [List.isEmpty_nil, if_true, hinput, hplain]
  rw [hcommand, ← written_part (c := p.console) hcolor]
  exact print_yields ..

/- The warnings about the groups go to the other stream. -/
theorem ofEffect_start_silent (setup : Logger.Setup) (debugMode : Bool) (c : Console) :
    (ofEffect (Session.start setup (.console debugMode c)).2).Silent := by
  intro e he
  change e ∈ (Session.start setup (.console debugMode c)).2.records.map Event.record ++
    (Session.start setup (.console debugMode c)).2.deliveries.flatMap shownDelivery at he
  rcases List.mem_append.mp he with hrecord | hline
  · obtain ⟨r, -, rfl⟩ := List.mem_map.mp hrecord
    rfl
  · obtain ⟨d, hd, hshown⟩ := List.mem_flatMap.mp hline
    rw [Session.start_deliveries] at hd
    obtain ⟨warning, -, hdelivered⟩ := List.mem_flatMap.mp hd
    obtain rfl : d = .printed .stderr (c.written warning) := List.mem_singleton.mp hdelivered
    rw [List.mem_singleton.mp hshown]
    rfl

theorem log_info (w : World) (hcolor : p.useColor = false) {text : String}
    (hwords : Gives words [text]) (lead : String) :
    (runCommand w p .log ("--prefix" :: lead :: words)).Yields ()
      (unstyled (lead ++ Markup.strip text) ++ "\n") := by
  have hinfo := Session.effect_info ((leadRequest lead text []).setup p) false p.console text hcolor
  have hcommand : runCommand w p .log ("--prefix" :: lead :: words) =
      ofEffect (Session.start ((leadRequest lead text []).setup p) (.console false p.console)).2 >>=
        fun _ => Act.print p.console (lead ++ Markup.strip text) := by
    unfold runCommand
    rw [read_leadRequest hwords]
    refine (orRefuse_bind ..).trans ((if_neg nofun).trans ?_)
    exact congrArg (fun e => _ >>= fun _ => ofEffect e) hinfo
  rw [hcommand, ← written_line (c := p.console) hcolor]
  exact .bind_silent rfl (ofEffect_start_silent _ _ _) (print_yields ..)

/-! ### Runs -/

/-- The options can be read, the diagnostics have a level, and the settings of the world are
these. -/
structure Ready (w : World) (options : List String) (o : ProgramOptions) (p : Prepared) : Prop where
  read : Invocation.read w.files options = .ok ⟨o, none⟩
  reporter : ∃ r, chooseReporter w.env o = pure r
  prepared : (prepare w o).result = .ok p

theorem Ready.stdout_run (h : Ready w options o p) {c : Command} {text : String}
    (hcommand : (runCommand w p c words).Yields () text) :
    (run w (options ++ c.name :: words)).stdout = text := by
  obtain ⟨r, hreporter⟩ := h.reporter
  have hread := read_options_command h.read c words
  have hbody : (body w ⟨o, some (c, words)⟩).Yields () text :=
    .bind_silent h.prepared (prepare_spec w o).2 hcommand
  rw [run_of_reporter hread hreporter]
  exact hbody.stdout

/-- The input does not matter for readiness. -/
theorem Ready.withInput (h : Ready w options o p) (input : Except Utf8.Fault String) :
    Ready { w with input } options o p :=
  ⟨h.read, h.reporter, h.prepared⟩

theorem mem_lines_ne_return {texts : List String} (h : ∀ t ∈ texts, ∀ c ∈ t.toList, c ≠ '\r') :
    ∀ c ∈ (lines texts).toList, c ≠ '\r' := by
  unfold lines
  induction texts with
  | nil => simp
  | cons t rest ih =>
    rw [List.forall_mem_cons] at h
    rw [List.map_cons, String.join_cons, String.toList_append, String.toList_append]
    simp only [List.forall_mem_append]
    exact ⟨⟨h.1, by simp⟩, ih h.2⟩

/-- Without color markup can be removed in three ways. The command `strip` writes the texts of its
operands as it writes their lines in the input, and as `log` writes the texts with an empty lead:
each without its markers and control sequences on a line of its own. A console that deletes no more
than styles would not tell the ways apart either. -/
theorem strip_ways_agree (h : Ready w options o p) (hcolor : p.useColor = false)
    (htexts : texts ≠ []) (hreturn : ∀ t ∈ texts, ∀ c ∈ t.toList, c ≠ '\r')
    (hwords : Gives words texts) {request : String → List String}
    (hrequest : ∀ t ∈ texts, Gives (request t) [t]) :
    (run w (options ++ "strip" :: words)).stdout =
      (run { w with input := .ok (lines texts) } (options ++ ["strip"])).stdout ∧
    (run w (options ++ "strip" :: words)).stdout =
      String.join (texts.map fun t =>
        (run w (options ++ "log" :: "--prefix" :: "" :: request t)).stdout) ∧
    (run w (options ++ "strip" :: words)).stdout =
      lines (texts.map fun t => unstyled (Markup.strip t)) ∧
    withoutStyles (Markup.strip (lines texts)) =
      lines (texts.map fun t => withoutStyles (Markup.strip t)) := by
  have hoperands : (run w (options ++ "strip" :: words)).stdout =
      lines (texts.map fun t => unstyled (Markup.strip t)) :=
    h.stdout_run (strip_operands w hcolor hwords htexts)
  have hinput : (run { w with input := .ok (lines texts) } (options ++ ["strip"])).stdout =
      unstyled (Markup.strip (lines texts)) :=
    (h.withInput _).stdout_run (strip_input hcolor rfl (mem_lines_ne_return hreturn))
  have hlog : ∀ t ∈ texts, (run w (options ++ "log" :: "--prefix" :: "" :: request t)).stdout =
      unstyled (Markup.strip t) ++ "\n" := by
    intro t ht
    have hline := log_info w hcolor (hrequest t ht) ""
    rw [String.empty_append] at hline
    exact h.stdout_run hline
  have hunstyled : Linewise (unstyled ∘ Markup.strip) :=
    linewise_unstyled.comp Markup.linewise_strip
  have hstyles : Linewise (withoutStyles ∘ Markup.strip) :=
    linewise_withoutStyles.comp Markup.linewise_strip
  refine ⟨?_, ?_, hoperands, hstyles.lines texts⟩
  · rw [hoperands, hinput]
    exact (hunstyled.lines texts).symm
  · rw [hoperands, List.map_congr_left hlog, lines, List.map_map]
    rfl

/- A region that is never closed, and a marker and a control sequence that line ends cut in two. The
last texts look like an option and like nothing. -/
theorem strip_ways_agree_cut_short :
    let texts := ["[[r]]open", "[[", "*]]\x1b[3", "1mx", "-q", ""]
    let words := ["[[r]]open", "[[", "*]]\x1b[3", "1mx", "--", "-q", ""]
    (run {} (["--no-color"] ++ "strip" :: words)).stdout =
      lines ["open", "[[", "*]]\x1b[3", "1mx", "-q", ""] ∧
    (run {} (["--no-color"] ++ "strip" :: words)).stdout =
      (run { input := .ok (lines texts) } (["--no-color"] ++ ["strip"])).stdout ∧
    (run {} (["--no-color"] ++ "strip" :: words)).stdout =
      String.join (texts.map fun t =>
        (run {} (["--no-color"] ++ "log" :: "--prefix" :: "" :: asOperand t)).stdout) := by
  intro texts words
  have hread : Invocation.read {} ["--no-color"] = .ok ⟨⟨0, 0, true, none, none⟩, none⟩ := by
    decide +kernel
  have hready : Ready {} ["--no-color"] ⟨0, 0, true, none, none⟩ ⟨{ colorMode := .never }, false⟩ :=
    ⟨hread, ⟨_, rfl⟩, by rfl⟩
  have hwords : Gives words texts :=
    .operand (by decide) (.operand (by decide) (.operand (by decide)
      (.operand (by decide) (.behind ["-q", ""]))))
  have hreturn : ∀ t ∈ texts, ∀ c ∈ t.toList, c ≠ '\r' := by simp [texts]
  have hagree := strip_ways_agree hready rfl (by decide) hreturn hwords fun t _ =>
    gives_asOperand t
  obtain ⟨hinput, hlog, hlines, -⟩ := hagree
  refine ⟨?_, hinput, hlog⟩
  rw [hlines]
  decide +kernel

end Cli

end MarkupLog
