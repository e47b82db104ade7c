import MarkupLog.Proofs.LineByLine
import MarkupLog.Proofs.Runs

/-!
# Sinks compared

A logger works over a host or a console as it works over a recording sink that shows the same of
itself: its calls return the same values and write the same progress text. The host files the
recorded lines that its threshold lets through, and the console prints them.
-/

namespace MarkupLog

/-! ### Counterparts -/

namespace Sink

/-- The recording sink that shows of itself what a host of this threshold, or a console, shows. -/
def counterpart : Sink → Sink
  | .recording debugMode infoEnabled => .recording debugMode infoEnabled
  | .host h => .recording (h.threshold ≤ Level.debug) (h.threshold ≤ Level.info)
  | .console debugMode _ => .recording debugMode true

/-- What becomes of a recorded line: a host files it unless its threshold is above the level of the
channel, and a console prints it, but a debug line in debug mode only. -/
def passes : Sink → Delivery → Option Delivery
  | .host h, .recorded channel line =>
    if h.threshold ≤ channel.level then some (.filed channel.level line) else none
  | .console debugMode c, .recorded channel line =>
    if channel = .debug ∧ debugMode = false then none
    else
      some (.printed (if channel = .debug ∨ channel = .info then .stdout else .stderr)
        ((if c.color then line else Terminal.unstyled line) ++ "\n"))
  | _, delivery => some delivery

def pass (sink : Sink) (e : Effect) : Effect :=
  { e with deliveries := e.deliveries.filterMap sink.passes }

/-- The sink in force at each action. -/
def inForce (sink : Sink) : List Action → List Sink
  | [] => []
  | .setSink next :: rest => next :: next.inForce rest
  | .call _ _ :: rest => sink :: sink.inForce rest

/-- A host shows a level exactly when it is not below the threshold. Only a host apart from the registry
may not, when it has answered for an earlier threshold and keeps to its answers. -/
def FiltersByLevel : Sink → Prop
  | .host h => ∀ level, h.shows level = decide (h.threshold ≤ level)
  | _ => True

theorem filtersByLevel_new (threshold : Int) : (Sink.host { threshold }).FiltersByLevel :=
  fun _ => rfl

theorem view_counterpart {sink : Sink} (h : sink.FiltersByLevel) :
    sink.counterpart.view = sink.view := by
  cases sink with
  | recording debugMode infoEnabled => rfl
  | host host => simp only [counterpart, view, h _, Question.level]
  | console debugMode c => rfl

theorem deliver_counterpart (sink : Sink) (channel : Channel) (line : String) :
    sink.counterpart.deliver channel line = [.recorded channel line] := by
  cases sink <;> rfl

theorem deliver_eq {sink : Sink} (h : sink.FiltersByLevel) (channel : Channel) (line : String) :
    sink.deliver channel line = (sink.passes (.recorded channel line)).toList := by
  cases sink with
  | recording debugMode infoEnabled => rfl
  | host host =>
    by_cases hlevel : host.threshold ≤ channel.level <;> simp [deliver, passes, h _, hlevel]
  | console debugMode c =>
    have hwritten :
        c.written line = (if c.color then line else Terminal.unstyled line) ++ "\n" := by
      unfold Console.written
      cases c.color with
      | true => rfl
      | false => exact Terminal.linewise_unstyled.newline line
    have hstream : streamOf channel =
        if channel = .debug ∨ channel = .info then .stdout else .stderr := by
      cases channel <;> rfl
    by_cases hdropped : channel = .debug ∧ debugMode = false
    · simp only [deliver, passes, hdropped, and_self, if_true, Option.toList_none]
    · simp only [deliver, passes, hdropped, if_false, hwritten, hstream, Option.toList_some]

end Sink

def Action.counterpart : Action → Action
  | .setSink sink => .setSink sink.counterpart
  | .call thread c => .call thread c

def Action.FiltersByLevel : Action → Prop
  | .setSink sink => sink.FiltersByLevel
  | .call _ _ => True

/-! ### Runs -/

namespace Session

theorem effectOf_counterpart {sink : Sink} (h : sink.FiltersByLevel) (o : Outcome) :
    effectOf sink o = sink.pass (effectOf sink.counterpart o) := by
  have hlines : (o.lines.flatMap fun pair => sink.deliver pair.1 pair.2) =
      (o.lines.flatMap fun pair => sink.counterpart.deliver pair.1 pair.2).filterMap
        sink.passes := by
    simp only [Sink.deliver_eq h, Sink.deliver_counterpart, List.filterMap_flatMap]
    rfl
  simp only [effectOf, Sink.pass, hlines]

/-- A session over a sink that is in force, and one over its counterpart, with the same logger and
the same displays. -/
structure Follows (sink : Sink) (s r : Session) : Prop where
  logger : s.logger = r.logger
  displays : s.displays = r.displays
  actual : s.sink.Agrees sink
  recording : r.sink.Agrees sink.counterpart

namespace Follows

variable {sink : Sink} {s r : Session}

theorem of_start (setup : Logger.Setup) (sink : Sink) :
    Follows sink (start setup sink).1 (start setup sink.counterpart).1 :=
  ⟨rfl, rfl, Sink.Agrees.settled sink _, Sink.Agrees.settled sink.counterpart _⟩

theorem setSink (h : Follows sink s r) (next : Sink) :
    Follows next (s.step (.setSink next)).1 (r.step (.setSink next.counterpart)).1 :=
  ⟨h.logger, h.displays, Sink.Agrees.refl next, Sink.Agrees.refl next.counterpart⟩

theorem outcome_eq (h : Follows sink s r) (hsink : sink.FiltersByLevel) (thread : Thread)
    (c : Call) : s.logger.call s.sink.view (s.display thread) c =
      r.logger.call r.sink.view (r.display thread) c := by
  have hview : s.sink.view = r.sink.view := by
    rw [h.actual.view, h.recording.view, Sink.view_counterpart hsink]
  rw [h.logger, hview, display, display, h.displays]

theorem effect_eq (h : Follows sink s r) (hsink : sink.FiltersByLevel) (thread : Thread)
    (c : Call) : (s.step (.call thread c)).2 = sink.pass (r.step (.call thread c)).2 := by
  show effectOf s.sink (s.logger.call s.sink.view (s.display thread) c) =
    sink.pass (effectOf r.sink (r.logger.call r.sink.view (r.display thread) c))
  rw [h.outcome_eq hsink, h.actual.effectOf, h.recording.effectOf, effectOf_counterpart hsink]

theorem call (h : Follows sink s r) (hsink : sink.FiltersByLevel) (thread : Thread) (c : Call) :
    Follows sink (s.step (.call thread c)).1 (r.step (.call thread c)).1 where
  logger := h.logger
  displays := by
    show s.displays.put thread (s.logger.call s.sink.view (s.display thread) c).progress =
      r.displays.put thread (r.logger.call r.sink.view (r.display thread) c).progress
    rw [h.outcome_eq hsink, h.displays]
  actual := (Sink.Agrees.settled s.sink _).trans h.actual
  recording := (Sink.Agrees.settled r.sink _).trans h.recording

/- By induction on the actions: the sink in force is the one that was set last. -/
theorem effects (h : Follows sink s r) (hsink : sink.FiltersByLevel) {actions : List Action}
    (hactions : ∀ a ∈ actions, a.FiltersByLevel) :
    s.effects actions = List.zipWith Sink.pass (sink.inForce actions)
      (r.effects (actions.map Action.counterpart)) := by
  induction actions generalizing sink s r with
  | nil => rfl
  | cons a rest ih =>
    have hrest : ∀ a ∈ rest, a.FiltersByLevel := fun a ha => hactions a (List.mem_cons_of_mem _ ha)
    have hfirst := hactions a (List.mem_cons_self ..)
    cases a with
    | setSink next =>
      simp only [Session.effects, Sink.inForce, List.map_cons, List.zipWith_cons_cons]
      rw [ih (h.setSink next) hfirst hrest]
      rfl
    | call thread c =>
      simp only [Session.effects, Sink.inForce, List.map_cons, List.zipWith_cons_cons]
      rw [ih (h.call hsink thread c) hsink hrest, h.effect_eq hsink]
      rfl

end Follows

/-- The sinks agree. Over a host or a console, which may be changed at any time, a logger has the
effects that it has over the recording sinks that are their counterparts, from its construction on:
the same replies and the same progress text, and of the recorded lines those that the sink in force
lets through, each at its level or on its stream. To set the level of a registered host is to change
the sink to a new host of that threshold. -/
theorem sinks_agree (setup : Logger.Setup) (sink : Sink) (actions : List Action)
    (hsink : sink.FiltersByLevel) (hactions : ∀ a ∈ actions, a.FiltersByLevel) :
    (start setup sink).2 = sink.pass (start setup sink.counterpart).2 ∧
    (start setup sink).1.effects actions =
      List.zipWith Sink.pass (sink.inForce actions)
        ((start setup sink.counterpart).1.effects (actions.map Action.counterpart)) :=
  ⟨effectOf_counterpart hsink _, (Follows.of_start setup sink).effects hsink hactions⟩

/- A host that lets warnings through, and later every line, which then have no color; at last a
console without color. -/
theorem sinks_agree_changing :
    (start { verbose := some "apy" } (.host { threshold := 30 })).2.deliveries =
      [.filed 30 "Unknown verbosity group apy. Ignoring..."] ∧
    (start { verbose := some "apy" } (.host { threshold := 30 })).1.effects
        [.call .main (.info ⟨"50%", []⟩), .setSink (.host { threshold := 10 }),
          .call .main (.info ⟨"50%", []⟩), .setSink (.console false ⟨false⟩),
          .call .main (.warn ⟨"[[r]]x", []⟩)] =
      List.zipWith Sink.pass
        [.host { threshold := 30 }, .host { threshold := 10 }, .host { threshold := 10 },
          .console false ⟨false⟩, .console false ⟨false⟩]
        ((start { verbose := some "apy" } (.recording false false)).1.effects
          [.call .main (.info ⟨"50%", []⟩), .setSink (.recording true true),
            .call .main (.info ⟨"50%", []⟩), .setSink (.recording false true),
            .call .main (.warn ⟨"[[r]]x", []⟩)]) ∧
    ((start { verbose := some "apy" } (.host { threshold := 30 })).1.effects
        [.call .main (.info ⟨"50%", []⟩), .setSink (.host { threshold := 10 }),
          .call .main (.info ⟨"50%", []⟩), .setSink (.console false ⟨false⟩),
          .call .main (.warn ⟨"[[r]]x", []⟩)]).map Effect.deliveries =
      [[], [], [.filed 20 "EMPH> 50%"], [], [.printed .stderr "EMPH> x\n"]] := by
  have hactions : ∀ a ∈ [Action.call .main (.info ⟨"50%", []⟩),
      .setSink (.host { threshold := 10 }), .call .main (.info ⟨"50%", []⟩),
      .setSink (.console false ⟨false⟩), .call .main (.warn ⟨"[[r]]x", []⟩)], a.FiltersByLevel := by
    simp [Action.FiltersByLevel, Sink.FiltersByLevel, Host.shows]
  obtain ⟨hstart, heffects⟩ := sinks_agree { verbose := some "apy" } (.host { threshold := 30 })
    _ (Sink.filtersByLevel_new 30) hactions
  refine ⟨?_, heffects, ?_⟩
  · rw [hstart]
    decide +kernel
  · rw [heffects]
    decide +kernel

end Session

end MarkupLog
