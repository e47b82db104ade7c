import MarkupLog.Proofs.Runs

/-!
# What threads see of each other

A progress call depends on the display of its own thread and on nothing that other threads or
messages leave behind, and any other call has no part in the displays. So the effects of the
progress calls of one thread are those of the run that keeps these calls only, and the lines of a
session are those of the run without its progress calls.
-/

namespace MarkupLog

/-! ### Calls -/

def Call.isProgress : Call → Bool
  | .progressStart | .progressUpdate .. | .progressFinish => true
  | _ => false

namespace Logger

theorem withText_display (p q : Progress) (m : Message) {use other : String → Outcome}
    (hother : ∀ text, other text = { use text with progress := q }) :
    withText q m other = { withText p m use with progress := q } := by
  unfold withText
  dsimp only
  cases (Template.formatMessage m.template m.args).value with
  | error f => rfl
  | ok text =>
    dsimp only
    rw [hother]

theorem emit_display (l : Logger) (view : SinkView) (p q : Progress) (channel : Channel)
    (base : Color) (m : Message) :
    l.emit view q channel base m = { l.emit view p channel base m with progress := q } :=
  withText_display p q m fun _ => rfl

/- Apart from the display that it hands on, the outcome is the same for every display. -/
theorem call_display (l : Logger) (view : SinkView) (p q : Progress) {c : Call}
    (h : c.isProgress = false) : l.call view q c = { l.call view p c with progress := q } := by
  cases c with
  | debug m | errorLine m => exact withText_display p q m fun _ => rfl
  | info m | warn m | error m => exact l.emit_display view p q _ _ m
  | verbose category m =>
    cases hshown : l.verbosity.showsNamed category with
    | true =>
      simp only [call, hshown, if_true]
      exact l.emit_display view p q _ _ m
    | false => simp only [call, hshown, Bool.false_eq_true, if_false]
  | isDebugEnabled | isColorActive => rfl
  | isVerboseEnabled category => cases category <;> rfl
  | progressStart | progressUpdate | progressFinish => cases h

theorem call_keeps_display (l : Logger) (view : SinkView) (p : Progress) {c : Call}
    (h : c.isProgress = false) : (l.call view p c).progress = p :=
  congrArg Outcome.progress (l.call_display view p p h)

theorem progress_writes_no_line (l : Logger) (view : SinkView) (p : Progress) {c : Call}
    (h : c.isProgress = true) : (l.call view p c).lines = [] := by
  cases c with
  | progressStart => rfl
  | progressUpdate item status message =>
    show (l.update view p item status message).lines = []
    unfold update
    split
    · rfl
    · split
      · rfl
      · split <;> rfl
  | progressFinish =>
    show (l.finish view p).lines = []
    unfold finish
    split <;> rfl
  | _ => cases h

end Logger

namespace Session

/-! ### Sessions that are alike for some threads -/

/-- Two sessions with the same logger, sinks that agree, and the same displays of the threads that
are watched. -/
structure AlikeFor (watched : Thread → Prop) (s r : Session) : Prop where
  logger : s.logger = r.logger
  sink : s.sink.Agrees r.sink
  displays : ∀ t, watched t → s.display t = r.display t

theorem display_step (s : Session) (thread t : Thread) (c : Call) :
    (s.step (.call thread c)).1.display t =
      if thread = t then (s.logger.call s.sink.view (s.display thread) c).progress
      else s.display t := by
  show ((s.displays.put thread _).get? t).getD {} = _
  rw [Entries.get?_put]
  by_cases h : thread = t
  · simp only [h, if_true, Option.getD_some]
  · simp only [h, if_false]
    rfl

namespace AlikeFor

variable {watched : Thread → Prop} {s r : Session}

theorem refl (s : Session) : s.AlikeFor watched s :=
  ⟨rfl, Sink.Agrees.refl s.sink, fun _ _ => rfl⟩

theorem call_of_display (h : s.AlikeFor watched r) (thread : Thread) (c : Call)
    (hdisplay : s.display thread = r.display thread) :
    s.logger.call s.sink.view (s.display thread) c =
      r.logger.call r.sink.view (r.display thread) c := by
  rw [h.logger, h.sink.view, hdisplay]

/- A progress call of a watched thread sees the same display in both sessions, and what any other
call does is the same for all displays. -/
theorem effect_eq (h : s.AlikeFor watched r) {thread : Thread} {c : Call}
    (hc : c.isProgress = true → watched thread) :
    (s.step (.call thread c)).2 = (r.step (.call thread c)).2 := by
  show effectOf s.sink (s.logger.call s.sink.view (s.display thread) c) =
    effectOf r.sink (r.logger.call r.sink.view (r.display thread) c)
  cases hprogress : c.isProgress with
  | true =>
    have hdisplay := h.displays thread (hc hprogress)
    rw [h.call_of_display thread c hdisplay, h.sink.effectOf]
  | false =>
    have hother := r.logger.call_display r.sink.view (s.display thread) (r.display thread) hprogress
    rw [hother, h.logger, h.sink.view, h.sink.effectOf]
    rfl

theorem step_call (h : s.AlikeFor watched r) (thread : Thread) (c : Call) :
    (s.step (.call thread c)).1.AlikeFor watched (r.step (.call thread c)).1 where
  logger := h.logger
  sink := (Sink.Agrees.settled s.sink _).trans (h.sink.trans (Sink.Agrees.settled r.sink _).symm)
  displays t ht := by
    rw [display_step, display_step]
    by_cases hthread : thread = t
    · subst hthread
      rw [if_pos rfl, if_pos rfl, h.call_of_display thread c (h.displays thread ht)]
    · simp only [hthread, if_false]
      exact h.displays t ht

/- The call is made in one session only. It changes the display of its own thread at most. -/
theorem step_only (h : s.AlikeFor watched r) {thread : Thread} {c : Call}
    (hc : c.isProgress = true → ¬watched thread) :
    (s.step (.call thread c)).1.AlikeFor watched r where
  logger := h.logger
  sink := (Sink.Agrees.settled s.sink _).trans h.sink
  displays t ht := by
    rw [display_step]
    by_cases hthread : thread = t
    · subst hthread
      have hmessage : c.isProgress = false := Bool.eq_false_iff.mpr fun hp => hc hp ht
      rw [if_pos rfl, Logger.call_keeps_display _ _ _ hmessage]
      exact h.displays thread ht
    · simp only [hthread, if_false]
      exact h.displays t ht

end AlikeFor

/-! ### Runs -/

/-- The effects of those actions of a run that are kept. -/
def effectsWhere (s : Session) (keep : Action → Bool) (actions : List Action) : List Effect :=
  ((actions.zip (s.effects actions)).filter fun x => keep x.1).map Prod.snd

theorem effectsWhere_cons (s : Session) (keep : Action → Bool) (a : Action) (rest : List Action) :
    s.effectsWhere keep (a :: rest) =
      (if keep a = true then [(s.step a).2] else []) ++ (s.step a).1.effectsWhere keep rest := by
  simp only [effectsWhere, effects, List.zip_cons_cons, List.filter_cons]
  split <;> rfl

/-- A choice of actions that leaves the sink changes in, and of the calls all progress calls of the
watched threads and none of other threads. -/
structure Keeps (watched : Thread → Prop) (keep : Action → Bool) : Prop where
  setSink : ∀ sink, keep (.setSink sink) = true
  kept : ∀ thread c, keep (.call thread c) = true → c.isProgress = true → watched thread
  struck : ∀ thread c, keep (.call thread c) = false → c.isProgress = true → ¬watched thread

/- By induction on the actions. Where one is struck, only the full run takes a step. -/
theorem effects_filter {watched : Thread → Prop} {keep : Action → Bool} (hkeep : Keeps watched keep)
    {s r : Session} (h : s.AlikeFor watched r) (actions : List Action) :
    r.effects (actions.filter keep) = s.effectsWhere keep actions := by
  induction actions generalizing s r with
  | nil => rfl
  | cons a rest ih =>
    rw [effectsWhere_cons]
    cases a with
    | setSink sink =>
      have hnext : (s.step (.setSink sink)).1.AlikeFor watched (r.step (.setSink sink)).1 :=
        ⟨h.logger, Sink.Agrees.refl sink, h.displays⟩
      rw [List.filter_cons_of_pos (hkeep.setSink sink), if_pos (hkeep.setSink sink), ← ih hnext]
      rfl
    | call thread c =>
      cases hc : keep (.call thread c) with
      | true =>
        rw [List.filter_cons_of_pos hc, if_pos rfl, ← ih (h.step_call thread c),
          h.effect_eq (hkeep.kept thread c hc)]
        rfl
      | false =>
        rw [List.filter_cons_of_neg (Bool.not_eq_true _ ▸ hc), if_neg Bool.false_ne_true,
          ← ih (h.step_only (hkeep.struck thread c hc))]
        rfl

end Session

/-- A change of the sink, or a progress call of the thread. -/
def Action.drivesDisplayOf (t : Thread) : Action → Bool
  | .setSink _ => true
  | .call thread c => thread = t ∧ c.isProgress = true

/-- Everything but progress calls. -/
def Action.isMessage : Action → Bool
  | .setSink _ => true
  | .call _ c => !c.isProgress

namespace Session

theorem keeps_drivesDisplayOf (t : Thread) : Keeps (· = t) (Action.drivesDisplayOf t) where
  setSink _ := rfl
  kept _ _ hkept _ := (of_decide_eq_true hkept).1
  struck _ _ hstruck hprogress hthread := of_decide_eq_false hstruck ⟨hthread, hprogress⟩

theorem keeps_isMessage : Keeps (fun _ => False) Action.isMessage where
  setSink _ := rfl
  kept _ _ hkept hprogress := by simp [Action.isMessage, hprogress] at hkept
  struck _ _ _ _ := id

theorem deliveries_of_isMessage (s : Session) (actions : List Action) :
    (s.effectsWhere Action.isMessage actions).flatMap Effect.deliveries =
      (s.effects actions).flatMap Effect.deliveries := by
  induction actions generalizing s with
  | nil => rfl
  | cons a rest ih =>
    rw [effectsWhere_cons, List.flatMap_append, ih, effects, List.flatMap_cons]
    congr 1
    cases a with
    | setSink sink => rfl
    | call thread c =>
      cases hprogress : c.isProgress with
      | true =>
        have hlines := s.logger.progress_writes_no_line s.sink.view (s.display thread) hprogress
        have hstep : (s.step (.call thread c)).2.deliveries = [] := by
          show List.flatMap _ (s.logger.call s.sink.view (s.display thread) c).lines = []
          rw [hlines]
          rfl
        simp [Action.isMessage, hprogress, hstep]
      | false => simp [Action.isMessage, hprogress]

/-- Progress is of no concern to other threads and to messages. The progress calls of a thread have
the effects that they have in the run of these calls and the sink changes alone. All other calls
have the effects that they have in the run without progress calls, which writes the same lines. -/
theorem progress_isolated (s : Session) (t : Thread) (actions : List Action) :
    s.effects (actions.filter (Action.drivesDisplayOf t)) =
      s.effectsWhere (Action.drivesDisplayOf t) actions ∧
    s.effects (actions.filter Action.isMessage) = s.effectsWhere Action.isMessage actions ∧
    (s.effects (actions.filter Action.isMessage)).flatMap Effect.deliveries =
      (s.effects actions).flatMap Effect.deliveries := by
  have hmessages := effects_filter keeps_isMessage (AlikeFor.refl s) actions
  refine ⟨effects_filter (keeps_drivesDisplayOf t) (AlikeFor.refl s) actions, hmessages, ?_⟩
  rw [hmessages, deliveries_of_isMessage]

end Session

end MarkupLog
