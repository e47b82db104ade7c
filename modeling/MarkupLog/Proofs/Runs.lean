import MarkupLog.Logger.Session

/-!
# Runs of sessions

A run delivers what its actions deliver one after the other, whatever was seen before. Its logger
never changes. What a session does depends on its sink only through what the sink shows of itself
and does with lines: two sessions whose sinks agree in that run alike.
-/

namespace MarkupLog

/-! ### New loggers -/

namespace Logger.Setup

def verbosity (setup : Setup) : Verbosity :=
  (Verbosity.read setup.verbose).1

def warnings (setup : Setup) : List String :=
  (Verbosity.read setup.verbose).2

end Logger.Setup

namespace Session

theorem start_deliveries (setup : Logger.Setup) (sink : Sink) :
    (start setup sink).2.deliveries = setup.warnings.flatMap fun w => sink.deliver .warn w :=
  List.flatMap_map ..

/-! ### Single actions -/

/-- The effects of actions, one after the other. An action that fails does not keep the later ones
back. -/
def effects (s : Session) : List Action → List Effect
  | [] => []
  | a :: rest => (s.step a).2 :: (s.step a).1.effects rest

theorem step_logger (s : Session) (a : Action) : (s.step a).1.logger = s.logger := by
  cases a with
  | setSink sink => rfl
  | call thread c => rfl

theorem run_cons_of_ok {s : Session} {a : Action} {reply : Reply}
    (h : (s.step a).2.reply = .ok reply) (seen : Effect) (rest : List Action) :
    s.run seen (a :: rest) = (s.step a).1.run (andThen seen (s.step a).2) rest := by
  rw [run]
  simp only [h]

theorem run_cons_of_error {s : Session} {a : Action} {f : Template.Fault}
    (h : (s.step a).2.reply = .error f) (seen : Effect) (rest : List Action) :
    s.run seen (a :: rest) = ((s.step a).1, andThen seen (s.step a).2) := by
  rw [run]
  simp only [h]

/-! ### Runs -/

theorem run_logger (s : Session) (seen : Effect) (actions : List Action) :
    (s.run seen actions).1.logger = s.logger := by
  induction actions generalizing s seen with
  | nil => rfl
  | cons a rest ih =>
    cases h : (s.step a).2.reply with
    | ok reply => rw [run_cons_of_ok h, ih, step_logger]
    | error f => rw [run_cons_of_error h, step_logger]

theorem run_session (s : Session) (seen : Effect) (actions : List Action) :
    (s.run seen actions).1 = (s.run {} actions).1 := by
  induction actions generalizing s seen with
  | nil => rfl
  | cons a rest ih =>
    cases h : (s.step a).2.reply with
    | ok reply => rw [run_cons_of_ok h, run_cons_of_ok h, ih, ← ih]
    | error f => rw [run_cons_of_error h, run_cons_of_error h]

theorem run_deliveries (s : Session) (seen : Effect) (actions : List Action) :
    (s.run seen actions).2.deliveries = seen.deliveries ++ (s.run {} actions).2.deliveries := by
  induction actions generalizing s seen with
  | nil => exact (List.append_nil _).symm
  | cons a rest ih =>
    cases h : (s.step a).2.reply with
    | ok reply =>
      rw [run_cons_of_ok h, run_cons_of_ok h, ih, ih _ (andThen {} _), ← List.append_assoc]
      rfl
    | error f =>
      rw [run_cons_of_error h, run_cons_of_error h]
      rfl

/-- Builds a logger for a sink and carries out the actions. -/
def ofActions (setup : Logger.Setup) (sink : Sink) (actions : List Action) : Session × Effect :=
  (start setup sink).1.run (start setup sink).2 actions

theorem deliveries_ofActions (setup : Logger.Setup) (sink : Sink) (actions : List Action) :
    (ofActions setup sink actions).2.deliveries =
      (start setup sink).2.deliveries ++ ((start setup sink).1.run {} actions).2.deliveries :=
  run_deliveries ..

theorem deliveries_cons_of_ok {s : Session} {a : Action} {reply : Reply}
    (h : (s.step a).2.reply = .ok reply) (rest : List Action) :
    (s.run {} (a :: rest)).2.deliveries =
      (s.step a).2.deliveries ++ ((s.step a).1.run {} rest).2.deliveries := by
  rw [run_cons_of_ok h, run_deliveries]
  rfl

end Session

/-! ### Sinks that agree -/

/-- Two sinks between which no logger can tell a difference, and which do the same with lines. -/
structure Sink.Agrees (a b : Sink) : Prop where
  view : a.view = b.view
  deliver : ∀ channel line, a.deliver channel line = b.deliver channel line

namespace Sink.Agrees

variable {a b c : Sink}

theorem refl (a : Sink) : a.Agrees a :=
  ⟨rfl, fun _ _ => rfl⟩

theorem symm (h : a.Agrees b) : b.Agrees a :=
  ⟨h.view.symm, fun channel line => (h.deliver channel line).symm⟩

theorem trans (h : a.Agrees b) (h' : b.Agrees c) : a.Agrees c :=
  ⟨h.view.trans h'.view,
    fun channel line => (h.deliver channel line).trans (h'.deliver channel line)⟩

theorem settle (a : Sink) (level : Int) : (a.settle level).Agrees a :=
  ⟨a.view_settle level, fun channel line => a.deliver_settle level channel line⟩

theorem settled (a : Sink) (o : Outcome) : (Session.settled a o).Agrees a := by
  unfold Session.settled
  generalize o.asked.map Question.level ++ o.lines.map (fun l => l.1.level) = levels
  induction levels generalizing a with
  | nil => exact refl a
  | cons level rest ih => exact (ih (a.settle level)).trans (settle a level)

theorem effectOf (h : a.Agrees b) (o : Outcome) :
    Session.effectOf a o = Session.effectOf b o := by
  simp only [Session.effectOf, h.deliver]

end Sink.Agrees

/-! ### Sessions that are alike -/

structure Session.Alike (s t : Session) : Prop where
  logger : s.logger = t.logger
  displays : s.displays = t.displays
  sink : s.sink.Agrees t.sink

namespace Session.Alike

variable {s t : Session}

theorem step (h : s.Alike t) (a : Action) :
    (s.step a).2 = (t.step a).2 ∧ (s.step a).1.Alike (t.step a).1 := by
  cases a with
  | setSink sink => exact ⟨rfl, h.logger, h.displays, Sink.Agrees.refl sink⟩
  | call thread c =>
    have houtcome : s.logger.call s.sink.view (s.display thread) c =
        t.logger.call t.sink.view (t.display thread) c := by
      rw [h.logger, h.sink.view, display, display, h.displays]
    have hsink := h.sink.trans (Sink.Agrees.settled t.sink
      (t.logger.call t.sink.view (t.display thread) c)).symm
    refine ⟨?_, h.logger, ?_, ?_⟩
    · show effectOf s.sink (s.logger.call s.sink.view (s.display thread) c) = effectOf t.sink _
      rw [houtcome, h.sink.effectOf]
    · show s.displays.put thread (s.logger.call s.sink.view (s.display thread) c).progress =
        t.displays.put thread _
      rw [houtcome, h.displays]
    · exact (Sink.Agrees.settled s.sink _).trans hsink

/- By induction on the actions: both sessions see the same effects and stay alike. -/
theorem run (h : s.Alike t) (seen : Effect) (actions : List Action) :
    (s.run seen actions).2 = (t.run seen actions).2 := by
  induction actions generalizing s t seen with
  | nil => rfl
  | cons a rest ih =>
    obtain ⟨heffect, hnext⟩ := h.step a
    cases hs : (s.step a).2.reply with
    | ok reply =>
      have ht : (t.step a).2.reply = .ok reply := by rw [← heffect, hs]
      rw [run_cons_of_ok hs, run_cons_of_ok ht, heffect]
      exact ih hnext _
    | error f =>
      have ht : (t.step a).2.reply = .error f := by rw [← heffect, hs]
      rw [run_cons_of_error hs, run_cons_of_error ht, heffect]

end Session.Alike

end MarkupLog
