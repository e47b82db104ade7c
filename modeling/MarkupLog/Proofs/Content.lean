import MarkupLog.Proofs.PlainText
import MarkupLog.Proofs.Removal
import MarkupLog.Proofs.Runs

/-!
# The content of lines

A call that writes the line of a message has a content that has nothing to do with color: the
channel, and the lead with the text of the message, without its markers unless it is a debug line.
What a recording sink receives is this content in one way of coloring or another. Neither the
palette nor the times at which the sink is in debug mode can change it.
-/

namespace MarkupLog

open Terminal

/-! ### Messages and calls -/

/-- The text of a message whose template can be filled. -/
def Message.text (m : Message) : String :=
  (Template.formatMessage m.template m.args).value.toOption.getD ""

structure Message.Clean (m : Message) : Prop where
  fills : (Template.formatMessage m.template m.args).value = .ok m.text
  escapeFree : EscapeFree m.text

instance (m : Message) : Decidable m.Clean :=
  decidable_of_iff
    ((Template.formatMessage m.template m.args).value.toOption.isSome ∧ EscapeFree m.text) <| by
      have hfills : (Template.formatMessage m.template m.args).value.toOption.isSome ↔
          (Template.formatMessage m.template m.args).value = .ok m.text := by
        unfold Message.text
        cases (Template.formatMessage m.template m.args).value <;> simp [Except.toOption]
      rw [hfills]
      exact ⟨fun h => ⟨h.1, h.2⟩, fun h => ⟨h.fills, h.escapeFree⟩⟩

namespace Logger.Setup

/-- The content of a call: the channel and the text of its line, if it writes one. -/
def content (setup : Setup) : Call → Option (Channel × String)
  | .debug m => some (.debug, setup.lead ++ m.text)
  | .info m => some (.info, setup.lead ++ Markup.strip m.text)
  | .warn m => some (.warn, setup.lead ++ Markup.strip m.text)
  | .error m => some (.error, setup.lead ++ Markup.strip m.text)
  | .verbose category m =>
    if setup.verbosity.showsNamed category then some (.info, setup.lead ++ Markup.strip m.text)
    else none
  | _ => none

/-- A call that writes the line of a clean message, or the verbose call of a group that is not
shown. -/
def Writes (setup : Setup) : Call → Prop
  | .debug m | .info m | .warn m | .error m => m.Clean
  | .verbose category m => setup.verbosity.showsNamed category = true → m.Clean
  | _ => False

instance (setup : Setup) : (c : Call) → Decidable (setup.Writes c)
  | .debug m | .info m | .warn m | .error m => inferInstanceAs (Decidable m.Clean)
  | .verbose category m =>
    inferInstanceAs (Decidable (setup.verbosity.showsNamed category = true → m.Clean))
  | .errorLine _ | .isDebugEnabled | .isVerboseEnabled _ | .isColorActive | .progressStart
  | .progressUpdate .. | .progressFinish => inferInstanceAs (Decidable False)

end Logger.Setup

/-- The call of an action that is one. -/
def Action.call? : Action → Option Call
  | .call _ c => some c
  | .setSink _ => none

/-- An action of a run on a recording sink whose settings may change. -/
def Action.Writes (setup : Logger.Setup) : Action → Prop
  | .call _ c => setup.Writes c
  | .setSink (.recording _ _) => True
  | .setSink _ => False

instance (setup : Logger.Setup) : (a : Action) → Decidable (a.Writes setup)
  | .call _ c => inferInstanceAs (Decidable (setup.Writes c))
  | .setSink (.recording _ _) => inferInstanceAs (Decidable True)
  | .setSink (.host _) | .setSink (.console _ _) => inferInstanceAs (Decidable False)

/-! ### What a recording sink receives -/

/-- What a call delivers to a recording sink: its content in one line, or nothing if it has none. -/
structure Logger.Setup.Delivers (setup : Logger.Setup) (view : SinkView) (c : Call)
    (deliveries : List Delivery) : Prop where
  silent : setup.content c = none → deliveries = []
  line : ∀ channel text, setup.content c = some (channel, text) →
    ∃ line, deliveries = [.recorded channel line] ∧
      withoutStyles line = text ∧ unstyled line = text ∧
      (setup.useColor = false ∨ view.debugMode = true → EscapeFree line) ∧
      (channel = .debug → line = text)

/-- A recorded line without its styles. -/
def Delivery.shown? : Delivery → Option (Channel × String)
  | .recorded channel line => some (channel, withoutStyles line)
  | _ => none

def Effect.shown (e : Effect) : List (Channel × String) :=
  e.deliveries.filterMap Delivery.shown?

/-! ### Lines -/

namespace Logger

theorem coloredLine_plain (l : Logger) (view : SinkView) (base : Color) (text : String)
    (h : l.inColor view = false) : l.coloredLine view base text = l.lead ++ Markup.strip text := by
  have hline : l.coloredLine view base text = l.lead ++
      Segment.plainText (Segment.merge (Markup.parse l.palette.emphasis text)) := by
    simp only [coloredLine, Markup.line, h, Bool.false_eq_true, if_false]
  rw [hline, Segment.plainText_merge, Markup.plainText_parse]

theorem remove_coloredLine {remove : List Char → List Char} (hremove : RemovesColor remove)
    (l : Logger) (view : SinkView) (base : Color) (text : String) (hlead : EscapeFree l.lead)
    (htext : EscapeFree text) :
    String.ofList (remove (l.coloredLine view base text).toList) =
      l.lead ++ Markup.strip text := by
  cases hcolor : l.inColor view with
  | false =>
    have hplain : EscapeFree (l.lead ++ Markup.strip text) :=
      (escapeFree_append _ _).mpr ⟨hlead, Markup.escapeFree_strip htext⟩
    rw [coloredLine_plain l view base text hcolor, hremove.text _ hplain, String.ofList_toList]
  | true =>
    have hsegments := Markup.escapeFree_parse l.palette.emphasis htext
    unfold coloredLine
    rw [hcolor, hremove.coloredLine _ _ _ hlead hsegments, String.ofList_toList,
      Segment.plainText_merge, Markup.plainText_parse]

end Logger

/-! ### Calls -/

namespace Logger

theorem withText_of_clean (p : Progress) {m : Message} (h : m.Clean) (use : String → Outcome) :
    (withText p m use).reply = (use m.text).reply ∧
      (withText p m use).lines = (use m.text).lines := by
  unfold withText
  dsimp only
  rw [h.fills]
  exact ⟨rfl, rfl⟩

theorem debug_of_clean (l : Logger) (view : SinkView) (p : Progress) {m : Message} (h : m.Clean) :
    (l.call view p (.debug m)).reply = .ok .nothing ∧
      (l.call view p (.debug m)).lines = [(.debug, l.lead ++ m.text)] :=
  withText_of_clean p h _

theorem emit_of_clean (l : Logger) (view : SinkView) (p : Progress) (channel : Channel)
    (base : Color) {m : Message} (h : m.Clean) :
    (l.emit view p channel base m).reply = .ok .nothing ∧
      (l.emit view p channel base m).lines = [(channel, l.coloredLine view base m.text)] :=
  withText_of_clean p h _

namespace Setup

variable {setup : Setup}

theorem delivers_debug (view : SinkView) {m : Message} (hlead : EscapeFree setup.lead)
    (hm : m.Clean) : setup.Delivers view (.debug m) [.recorded .debug (setup.lead ++ m.text)] where
  silent h := by
    cases h
  line channel text h := by
    have hfree : EscapeFree (setup.lead ++ m.text) :=
      (escapeFree_append _ _).mpr ⟨hlead, hm.escapeFree⟩
    cases h
    refine ⟨_, rfl, ?_, ?_, fun _ => hfree, fun _ => rfl⟩
    · rw [withoutStyles, removesColor_styles.text _ hfree, String.ofList_toList]
    · rw [unstyled, removesColor_visible.text _ hfree, String.ofList_toList]

theorem delivers_colored (view : SinkView) {c : Call} {m : Message} {channel : Channel}
    (base : Color) (hlead : EscapeFree setup.lead) (hm : m.Clean) (hchannel : channel ≠ .debug)
    (hcontent : setup.content c = some (channel, setup.lead ++ Markup.strip m.text)) :
    setup.Delivers view c
      [.recorded channel ((Logger.build setup).1.coloredLine view base m.text)] where
  silent h := by
    rw [hcontent] at h
    cases h
  line other text h := by
    have hfree : EscapeFree (setup.lead ++ Markup.strip m.text) :=
      (escapeFree_append _ _).mpr ⟨hlead, Markup.escapeFree_strip hm.escapeFree⟩
    rw [hcontent] at h
    cases h
    refine ⟨_, rfl, ?_, ?_, ?_, fun h => absurd h hchannel⟩
    · exact remove_coloredLine removesColor_styles _ view base _ hlead hm.escapeFree
    · exact remove_coloredLine removesColor_visible _ view base _ hlead hm.escapeFree
    · intro hoff
      have hplain : (Logger.build setup).1.inColor view = false := by
        show (setup.useColor && !view.debugMode) = false
        rcases hoff with hcolor | hdebug
        · rw [hcolor, Bool.false_and]
        · rw [hdebug, Bool.not_true, Bool.and_false]
      rw [coloredLine_plain _ view base _ hplain]
      exact hfree

/- The calls for info, warnings and errors and the verbose call of a shown group all come down to
`emit`; all others but the debug call write nothing here. -/
theorem delivers_emit {c : Call} {m : Message} {channel : Channel} {base : Color} {view : SinkView}
    {p : Progress} (hlead : EscapeFree setup.lead) (hm : m.Clean) (hchannel : channel ≠ .debug)
    (hcall : (Logger.build setup).1.call view p c =
      (Logger.build setup).1.emit view p channel base m)
    (hcontent : setup.content c = some (channel, setup.lead ++ Markup.strip m.text)) :
    ((Logger.build setup).1.call view p c).reply = .ok .nothing ∧
      setup.Delivers view c
        (((Logger.build setup).1.call view p c).lines.map fun l => .recorded l.1 l.2) := by
  obtain ⟨hreply, hlines⟩ := emit_of_clean (Logger.build setup).1 view p channel base hm
  rw [hcall, hlines]
  exact ⟨hreply, delivers_colored view base hlead hm hchannel hcontent⟩

theorem Writes.call {c : Call} (hc : setup.Writes c) (hlead : EscapeFree setup.lead)
    (view : SinkView) (p : Progress) :
    ((Logger.build setup).1.call view p c).reply = .ok .nothing ∧
      setup.Delivers view c
        (((Logger.build setup).1.call view p c).lines.map fun l => .recorded l.1 l.2) := by
  cases c with
  | debug m =>
    obtain ⟨hreply, hlines⟩ := debug_of_clean (Logger.build setup).1 view p hc
    rw [hlines]
    exact ⟨hreply, delivers_debug view hlead hc⟩
  | info m => exact delivers_emit hlead hc (by decide) rfl rfl
  | warn m => exact delivers_emit hlead hc (by decide) rfl rfl
  | error m => exact delivers_emit hlead hc (by decide) rfl rfl
  | verbose category m =>
    by_cases hshown : setup.verbosity.showsNamed category = true
    · exact delivers_emit hlead (hc hshown) (by decide) (if_pos hshown) (if_pos hshown)
    · have hcontent : setup.content (.verbose category m) = none := if_neg hshown
      have hcall : (Logger.build setup).1.call view p (.verbose category m) = { progress := p } :=
        if_neg hshown
      rw [hcall]
      exact ⟨rfl, fun _ => rfl, fun _ _ h => nomatch hcontent ▸ h⟩
  | _ => exact hc.elim

end Setup

end Logger

/-! ### Runs -/

namespace Session

/-- A session of a logger of the given setup with a recording sink. -/
structure Records (setup : Logger.Setup) (s : Session) : Prop where
  logger : s.logger = (Logger.build setup).1
  sink : ∃ debugMode infoEnabled, s.sink = .recording debugMode infoEnabled

theorem settled_recording (debugMode infoEnabled : Bool) (o : Outcome) :
    settled (.recording debugMode infoEnabled) o = .recording debugMode infoEnabled := by
  unfold settled
  generalize o.asked.map Question.level ++ o.lines.map (fun l => l.1.level) = levels
  induction levels with
  | nil => rfl
  | cons level rest ih => exact ih

theorem deliveries_recording (debugMode infoEnabled : Bool) (o : Outcome) :
    (effectOf (.recording debugMode infoEnabled) o).deliveries =
      o.lines.map fun l => .recorded l.1 l.2 := by
  unfold effectOf
  dsimp only
  induction o.lines with
  | nil => rfl
  | cons l rest ih => exact congrArg (_ :: ·) ih

namespace Records

variable {setup : Logger.Setup} {s : Session}

theorem of_start (setup : Logger.Setup) (debugMode infoEnabled : Bool) :
    Records setup (start setup (.recording debugMode infoEnabled)).1 :=
  ⟨rfl, debugMode, infoEnabled, settled_recording debugMode infoEnabled _⟩

theorem call (h : Records setup s) (hlead : EscapeFree setup.lead) (thread : Thread) {c : Call}
    (hc : setup.Writes c) :
    (s.step (.call thread c)).2.reply = .ok .nothing ∧
      setup.Delivers s.sink.view c (s.step (.call thread c)).2.deliveries := by
  obtain ⟨debugMode, infoEnabled, hsink⟩ := h.sink
  have hcall := hc.call hlead s.sink.view (s.display thread)
  rw [← h.logger] at hcall
  refine ⟨hcall.1, ?_⟩
  have hdeliveries : (s.step (.call thread c)).2.deliveries =
      (s.logger.call s.sink.view (s.display thread) c).lines.map fun l => .recorded l.1 l.2 := by
    show (effectOf s.sink _).deliveries = _
    rw [hsink, deliveries_recording]
  rw [hdeliveries]
  exact hcall.2

theorem step (h : Records setup s) (hlead : EscapeFree setup.lead) {a : Action}
    (ha : a.Writes setup) : (s.step a).2.reply = .ok .nothing ∧ Records setup (s.step a).1 := by
  cases a with
  | call thread c =>
    obtain ⟨debugMode, infoEnabled, hsink⟩ := h.sink
    refine ⟨(h.call hlead thread ha).1, h.logger, debugMode, infoEnabled, ?_⟩
    show settled s.sink _ = _
    rw [hsink, settled_recording]
  | setSink sink =>
    cases sink with
    | recording debugMode infoEnabled =>
      exact ⟨rfl, h.logger, debugMode, infoEnabled, rfl⟩
    | host host => exact ha.elim
    | console debugMode console => exact ha.elim

theorem run (actions : List Action) (h : Records setup s) (hlead : EscapeFree setup.lead)
    (hactions : ∀ a ∈ actions, a.Writes setup) : Records setup (s.run {} actions).1 := by
  induction actions generalizing s with
  | nil => exact h
  | cons a rest ih =>
    obtain ⟨hreply, hnext⟩ := h.step hlead (hactions a (List.mem_cons_self ..))
    rw [run_cons_of_ok hreply, run_session]
    exact ih hnext fun x hx => hactions x (List.mem_cons_of_mem _ hx)

theorem shown_call (h : Records setup s) (hlead : EscapeFree setup.lead) (thread : Thread)
    {c : Call} (hc : setup.Writes c) :
    (s.step (.call thread c)).2.shown = (setup.content c).toList := by
  have hdelivers := (h.call hlead thread hc).2
  unfold Effect.shown
  cases hcontent : setup.content c with
  | none =>
    rw [hdelivers.silent hcontent]
    rfl
  | some said =>
    obtain ⟨channel, text⟩ := said
    obtain ⟨line, hline, hplain, -⟩ := hdelivers.line channel text hcontent
    rw [hline, ← hplain]
    rfl

/- By induction on the actions: each call adds its content, a change of the sink adds nothing. -/
theorem shown_run (actions : List Action) (h : Records setup s) (hlead : EscapeFree setup.lead)
    (hactions : ∀ a ∈ actions, a.Writes setup) :
    (s.run {} actions).2.shown = (actions.filterMap Action.call?).filterMap setup.content := by
  induction actions generalizing s with
  | nil => rfl
  | cons a rest ih =>
    have ha := hactions a (List.mem_cons_self ..)
    obtain ⟨hreply, hnext⟩ := h.step hlead ha
    have hrest := ih hnext fun x hx => hactions x (List.mem_cons_of_mem _ hx)
    unfold Effect.shown at hrest ⊢
    rw [deliveries_cons_of_ok hreply, List.filterMap_append, hrest]
    cases a with
    | call thread c =>
      have hcall := h.shown_call hlead thread ha
      unfold Effect.shown at hcall
      rw [hcall, List.filterMap_cons_some (rfl : Action.call? (.call thread c) = some c),
        List.filterMap_cons]
      cases setup.content c <;> rfl
    | setSink sink => rfl

end Records

theorem shown_ofActions (setup : Logger.Setup) (debugMode infoEnabled : Bool)
    (actions : List Action) (hlead : EscapeFree setup.lead)
    (hactions : ∀ a ∈ actions, a.Writes setup) :
    (ofActions setup (.recording debugMode infoEnabled) actions).2.shown =
      (setup.warnings.map fun w => (.warn, withoutStyles w)) ++
        (actions.filterMap Action.call?).filterMap setup.content := by
  have hrun := (Records.of_start setup debugMode infoEnabled).shown_run actions hlead hactions
  have hwarnings : (start setup (.recording debugMode infoEnabled)).2.shown =
      setup.warnings.map fun w => (.warn, withoutStyles w) := by
    show List.filterMap Delivery.shown? (effectOf (.recording debugMode infoEnabled)
      (Logger.build setup).2).deliveries = _
    rw [deliveries_recording]
    show List.filterMap Delivery.shown? (List.map _ (List.map _ setup.warnings)) = _
    rw [List.map_map, List.filterMap_map, ← List.filterMap_eq_map]
    rfl
  unfold Effect.shown at hrun hwarnings ⊢
  unfold ofActions
  rw [run_deliveries, List.filterMap_append, hrun, hwarnings]

/-- Color changes no content. Each call of a run delivers its content, in one line or none; the
lines of a run without their styles are the warnings of its logger and the contents of its calls;
and so they stay the same with other colors and when the sink is in debug mode at other times. -/
theorem color_keeps_content (setup : Logger.Setup) (useColor : Bool) (palette : Palette)
    (debugMode infoEnabled otherDebugMode otherInfoEnabled : Bool) (actions others : List Action)
    (hlead : EscapeFree setup.lead) (hactions : ∀ a ∈ actions, a.Writes setup)
    (hothers : ∀ a ∈ others, a.Writes setup)
    (hcalls : others.filterMap Action.call? = actions.filterMap Action.call?) :
    (∀ before thread c after, actions = before ++ .call thread c :: after →
      setup.Delivers (ofActions setup (.recording debugMode infoEnabled) before).1.sink.view c
        ((ofActions setup (.recording debugMode infoEnabled) before).1.step
          (.call thread c)).2.deliveries) ∧
    (ofActions setup (.recording debugMode infoEnabled) actions).2.shown =
      (setup.warnings.map fun w => (.warn, withoutStyles w)) ++
        (actions.filterMap Action.call?).filterMap setup.content ∧
    (ofActions { setup with useColor, palette }
        (.recording otherDebugMode otherInfoEnabled) others).2.shown =
      (ofActions setup (.recording debugMode infoEnabled) actions).2.shown := by
  refine ⟨?_, ?_, ?_⟩
  · intro before thread c after hsplit
    subst hsplit
    have hbefore : ∀ a ∈ before, a.Writes setup :=
      fun a ha => hactions a (List.mem_append_left _ ha)
    have hc : setup.Writes c :=
      hactions (.call thread c) (List.mem_append_right _ (List.mem_cons_self ..))
    have hnow : Records setup (ofActions setup (.recording debugMode infoEnabled) before).1 := by
      unfold ofActions
      rw [run_session]
      exact (Records.of_start setup debugMode infoEnabled).run before hlead hbefore
    exact (hnow.call hlead thread hc).2
  · exact shown_ofActions setup debugMode infoEnabled actions hlead hactions
  · have hother := shown_ofActions { setup with useColor, palette } otherDebugMode
      otherInfoEnabled others hlead hothers
    rw [hother, hcalls, shown_ofActions setup debugMode infoEnabled actions hlead hactions]
    rfl

/- First the logger is in color and its sink enters debug mode between two calls; then it has no
color, and its sink leaves debug mode. The last call has no content, so its message does not
matter. -/
theorem color_keeps_content_scheduled :
    EscapeFree "> " ∧
    (∀ a ∈ [Action.call .main (.info ⟨"[[r]]%s[[/]] is out", [.str "app"]⟩),
        .setSink (.recording true true), .call .main (.warn ⟨"[[*]]late", []⟩),
        .call .main (.debug ⟨"[[k]]", []⟩), .call .main (.verbose "api" ⟨"\x1b", []⟩)],
      a.Writes { lead := "> ", verbose := some "build" }) ∧
    (∀ a ∈ [Action.call .main (.info ⟨"[[r]]%s[[/]] is out", [.str "app"]⟩),
        .call .main (.warn ⟨"[[*]]late", []⟩), .setSink (.recording false true),
        .call .main (.debug ⟨"[[k]]", []⟩), .call .main (.verbose "api" ⟨"\x1b", []⟩)],
      a.Writes { lead := "> ", verbose := some "build" }) ∧
    (ofActions { lead := "> ", verbose := some "build", useColor := false,
                 palette := { warn := ⟨.white, true⟩ } } (.recording true true)
      [.call .main (.info ⟨"[[r]]%s[[/]] is out", [.str "app"]⟩),
        .call .main (.warn ⟨"[[*]]late", []⟩), .setSink (.recording false true),
        .call .main (.debug ⟨"[[k]]", []⟩), .call .main (.verbose "api" ⟨"\x1b", []⟩)]).2.shown =
    (ofActions { lead := "> ", verbose := some "build" } (.recording false true)
      [.call .main (.info ⟨"[[r]]%s[[/]] is out", [.str "app"]⟩),
        .setSink (.recording true true), .call .main (.warn ⟨"[[*]]late", []⟩),
        .call .main (.debug ⟨"[[k]]", []⟩),
        .call .main (.verbose "api" ⟨"\x1b", []⟩)]).2.shown :=
  ⟨by decide, by decide +kernel, by decide +kernel,
    And.right <| And.right <| color_keeps_content { lead := "> ", verbose := some "build" } false
      { warn := ⟨.white, true⟩ } false true true true _ _ (by decide) (by decide +kernel)
      (by decide +kernel) rfl⟩

end Session

end MarkupLog
