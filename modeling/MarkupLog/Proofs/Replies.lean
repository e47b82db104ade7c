import MarkupLog.Logger.Session
import MarkupLog.Proofs.Overflow

/-!
# Which calls return

A call returns whatever its message is, except that a number out of range for its template passes
through the logger, and so does an integer without a text when the arguments must be appended.
-/

namespace MarkupLog

open Template (OutOfRange Unwritable formatMessage formatMessage_ok_iff)

namespace Logger

/-- The message that a call formats. -/
def formats (l : Logger) : Call → Option Message
  | .debug m | .info m | .warn m | .error m | .errorLine m => some m
  | .verbose category m => if l.verbosity.showsNamed category then some m else none
  | _ => none

theorem withText_returns_iff (p : Progress) (m : Message) (use : String → Outcome)
    (huse : ∀ text, ∃ reply, (use text).reply = .ok reply) :
    (∃ reply, (withText p m use).reply = .ok reply) ↔
      ¬OutOfRange (Template.read m.template) m.args ∧ ¬Unwritable m.template m.args := by
  rw [← formatMessage_ok_iff]
  unfold withText
  dsimp only
  cases (formatMessage m.template m.args).value with
  | error f => exact ⟨fun ⟨_, h⟩ => (nomatch h), fun ⟨_, h⟩ => (nomatch h)⟩
  | ok text =>
    obtain ⟨reply, hreply⟩ := huse text
    exact iff_of_true ⟨reply, hreply⟩ ⟨text, rfl⟩

theorem emit_returns_iff (l : Logger) (view : SinkView) (p : Progress) (channel : Channel)
    (base : Color) (m : Message) :
    (∃ reply, (l.emit view p channel base m).reply = .ok reply) ↔
      ¬OutOfRange (Template.read m.template) m.args ∧ ¬Unwritable m.template m.args :=
  withText_returns_iff p m _ fun _ => ⟨.nothing, rfl⟩

/- Only a call that formats a message can fail. -/
theorem call_returns_of_formats_none (l : Logger) (view : SinkView) (p : Progress) (c : Call)
    (hc : l.formats c = none) : ∃ reply, (l.call view p c).reply = .ok reply := by
  cases c with
  | debug m | info m | warn m | error m | errorLine m => cases hc
  | verbose category m =>
    by_cases hshown : l.verbosity.showsNamed category
    · simp [formats, hshown] at hc
    · exact ⟨.nothing, by simp [call, hshown]⟩
  | isDebugEnabled | isColorActive | progressStart => exact ⟨_, rfl⟩
  | isVerboseEnabled category => cases category <;> exact ⟨_, rfl⟩
  | progressUpdate item status message =>
    show ∃ reply, (l.update view p item status message).reply = .ok reply
    unfold update
    split
    · exact ⟨_, rfl⟩
    · split
      · exact ⟨_, rfl⟩
      · split <;> exact ⟨_, rfl⟩
  | progressFinish =>
    show ∃ reply, (l.finish view p).reply = .ok reply
    unfold finish
    split <;> exact ⟨_, rfl⟩

theorem call_returns_of_formats (l : Logger) (view : SinkView) (p : Progress) (c : Call)
    (m : Message) (hc : l.formats c = some m) :
    (∃ reply, (l.call view p c).reply = .ok reply) ↔
      ¬OutOfRange (Template.read m.template) m.args ∧ ¬Unwritable m.template m.args := by
  cases c with
  | debug n =>
    cases hc
    exact withText_returns_iff p m _ fun _ => ⟨_, rfl⟩
  | errorLine n =>
    cases hc
    exact withText_returns_iff p m _ fun _ => ⟨_, rfl⟩
  | info n | warn n | error n =>
    cases hc
    exact emit_returns_iff l view p _ _ m
  | verbose category n =>
    by_cases hshown : l.verbosity.showsNamed category
    · simp only [formats, hshown, if_true, Option.some.injEq] at hc
      subst hc
      simp only [call, hshown, if_true]
      exact emit_returns_iff l view p _ _ n
    · simp [formats, hshown] at hc
  | _ => cases hc

end Logger

/- What a session returns is what its logger returns; neither the sink nor the progress display of
the thread has a part in it. -/
theorem Session.call_returns_iff (s : Session) (thread : Thread) (c : Call) :
    (∃ reply, (s.step (.call thread c)).2.reply = .ok reply) ↔
      ∀ m, s.logger.formats c = some m →
        ¬OutOfRange (Template.read m.template) m.args ∧ ¬Unwritable m.template m.args := by
  show (∃ reply, (s.logger.call s.sink.view (s.display thread) c).reply = .ok reply) ↔ _
  cases hc : s.logger.formats c with
  | none =>
    exact iff_of_true (s.logger.call_returns_of_formats_none _ _ c hc) nofun
  | some m =>
    rw [s.logger.call_returns_of_formats _ _ c m hc]
    exact ⟨fun h n hn => by cases hn; exact h, fun h => h m rfl⟩

theorem info_passes_on_character_range :
    (Session.step (Session.start {} (.recording false true)).1
      (.call .main (.info ⟨"%c", [.int 1114112]⟩))).2.reply = .error .characterRange := by
  decide +kernel

end MarkupLog
