import MarkupLog.Proofs.Palettes
import MarkupLog.Proofs.ProgressLines
import MarkupLog.Proofs.ProgressMarks

/-!
# Line numbers

Whatever threads call and however the sink changes, the lines of every display are numbered without
a gap, from zero on in the order of the items. So the line of a known item is between one and all
lines above the bottom, and an update goes up by that many and comes down by one less.
-/

namespace MarkupLog

namespace Progress

/-- Every item has one line, and the lines are numbered from zero on in the order of the items. -/
structure Dense (p : Progress) : Prop where
  items : p.lines.keys.Nodup
  numbers : p.lines.map Prod.snd = List.range p.lines.length

variable {p : Progress} {items : List String} {item : String}

theorem Numbered.dense (h : p.Numbered items) (hitems : items.Nodup) : p.Dense := by
  have hkeys : p.lines.keys = items := by
    rw [h, Entries.keys, List.zipIdx_map_fst]
  refine ⟨hkeys ▸ hitems, ?_⟩
  rw [h, List.zipIdx_map_snd, List.length_zipIdx, List.range_eq_range']

theorem Dense.numbered (h : p.Dense) : p.Numbered p.lines.keys := by
  have hzip : p.lines = (p.lines.map Prod.fst).zip (p.lines.map Prod.snd) := by
    rw [List.zip_map']
    exact (List.map_id _).symm
  show p.lines = (p.lines.map Prod.fst).zipIdx
  rw [List.zipIdx_eq_zip_range', List.length_map, ← List.range_eq_range', ← h.numbers]
  exact hzip

theorem dense_new : Dense {} :=
  ⟨List.nodup_nil, rfl⟩

/- Only a new item takes a line, and it takes the next number. -/
theorem Dense.withItem (h : p.Dense) (item : String) : (p.withItem item).Dense := by
  by_cases hknown : item ∈ p.lines.keys
  · exact (h.numbered.withItem_known hknown).dense h.items
  · refine (h.numbered.withItem_new hknown).dense ?_
    rw [List.nodup_append_comm]
    exact List.nodup_cons.mpr ⟨hknown, h.items⟩

theorem Dense.line_lt (h : p.Dense) {line : Nat} (hline : p.lines.get? item = some line) :
    line < p.lines.length := by
  have hmem : (item, line) ∈ p.lines := (Entries.mem_iff_get? h.items).mpr hline
  have hnumber : line ∈ p.lines.map Prod.snd := List.mem_map.mpr ⟨(item, line), hmem, rfl⟩
  rw [h.numbers, List.mem_range] at hnumber
  exact hnumber

theorem Dense.distance_bounds (h : p.Dense) {line : Nat}
    (hline : p.lines.get? item = some line) :
    1 ≤ p.distance item ∧ p.distance item ≤ p.lines.length := by
  have hlt := h.line_lt hline
  unfold distance
  rw [hline]
  dsimp only
  omega

end Progress

namespace Logger

/-- The texts that calls write to the progress stream. Only the update of an item that has a line
moves the cursor apart from writing: up to that line, and down again to the bottom. -/
inductive Motion (l : Logger) (view : SinkView) (p : Progress) : Call → String → Prop
  | silent {c : Call} (h : c.isProgress = false ∨ l.showsProgress view = false) :
      Motion l view p c ""
  | start : Motion l view p .progressStart ""
  | unnamed {status : String} {message : Option String} :
      Motion l view p (.progressUpdate "" status message) ""
  | plain {item status : String} {message : Option String} (h : l.inColor view = false) :
      Motion l view p (.progressUpdate item status message) (Progress.plainText p.updates)
  | newRow {item status : String} {message : Option String} (h : p.lines.get? item = none) :
      Motion l view p (.progressUpdate item status message)
        (Progress.row l.palette item status (message.getD ""))
  | oldRow {item status : String} {message : Option String} {line : Nat} {up down : Int}
      (h : p.lines.get? item = some line) (hup : up = p.distance item)
      (hbounds : 1 ≤ up ∧ up ≤ p.lines.length) (hdown : 0 ≤ down) (hback : up - down = 1) :
      Motion l view p (.progressUpdate item status message)
        (Terminal.cursorUp up ++ Terminal.eraseLine ++
          Progress.row l.palette item status (message.getD "") ++ Terminal.cursorDown down)
  | finish : Motion l view p .progressFinish (Progress.finishText (l.inColor view))

variable {p : Progress}

theorem dense_call (l : Logger) (view : SinkView) (h : p.Dense) (c : Call) :
    (l.call view p c).progress.Dense := by
  cases c with
  | progressStart =>
    simp only [call]
    split
    · exact Progress.dense_new
    · exact h
  | progressUpdate item status message =>
    simp only [call, update]
    split
    · exact h
    · split
      · exact h
      · split
        · exact h.withItem item
        · exact ⟨h.items, h.numbers⟩
  | progressFinish =>
    simp only [call, finish]
    split
    · exact ⟨List.nodup_nil, rfl⟩
    · exact h
  | _ =>
    rw [call_keeps_display _ _ _ rfl]
    exact h

theorem motion_coloredText (l : Logger) (view : SinkView) (h : p.Dense) (item status : String)
    (message : Option String) :
    l.Motion view p (.progressUpdate item status message)
      (p.coloredText l.palette item status (message.getD "")) := by
  unfold Progress.coloredText
  cases hline : p.lines.get? item with
  | none =>
    have hzero : p.distance item = 0 := by
      unfold Progress.distance
      rw [hline]
    simp only [hzero, Int.lt_irrefl, if_false]
    exact .newRow hline
  | some line =>
    have hbounds := h.distance_bounds hline
    have hpositive : 0 < p.distance item := by omega
    simp only [hpositive, if_true]
    exact .oldRow hline rfl hbounds (by omega) (by omega)

theorem withText_written {m : Message} {use : String → Outcome}
    (h : ∀ text, (use text).written = "") : (withText p m use).written = "" := by
  unfold withText
  dsimp only
  cases (Template.formatMessage m.template m.args).value with
  | error f => rfl
  | ok text => exact h text

theorem message_writes_no_progress (l : Logger) (view : SinkView) {c : Call}
    (h : c.isProgress = false) : (l.call view p c).written = "" := by
  cases c with
  | debug | info | warn | error | errorLine => exact withText_written fun _ => rfl
  | verbose category m =>
    simp only [call]
    split
    · exact withText_written fun _ => rfl
    · rfl
  | isVerboseEnabled category => cases category <;> rfl
  | isDebugEnabled | isColorActive => rfl
  | progressStart | progressUpdate | progressFinish => cases h

theorem motion_call (l : Logger) (view : SinkView) (h : p.Dense) (c : Call) :
    l.Motion view p c (l.call view p c).written := by
  cases c with
  | progressStart => exact .start
  | progressUpdate item status message =>
    simp only [call, update]
    split
    · rename_i hitem
      subst hitem
      exact .unnamed
    · split
      · rename_i hhidden
        exact .silent (.inr hhidden)
      · split
        · exact l.motion_coloredText view h item status message
        · rename_i hplain
          exact .plain (Bool.eq_false_iff.mpr hplain)
  | progressFinish =>
    simp only [call, finish]
    split
    · exact .finish
    · rename_i hhidden
      exact .silent (.inr (Bool.eq_false_iff.mpr hhidden))
  | _ =>
    rw [message_writes_no_progress l view rfl]
    exact .silent (.inl rfl)

end Logger

namespace Session

variable {s : Session}

theorem dense_step (h : ∀ t, (s.display t).Dense) (a : Action) (t : Thread) :
    ((s.step a).1.display t).Dense := by
  cases a with
  | setSink sink => exact h t
  | call thread c =>
    rw [display_step]
    split
    · exact s.logger.dense_call s.sink.view (h thread) c
    · exact h t

/- By induction on the actions, of whatever threads. -/
theorem dense_after (h : ∀ t, (s.display t).Dense) (actions : List Action) (t : Thread) :
    ((s.after actions).display t).Dense := by
  induction actions generalizing s with
  | nil => exact h t
  | cons a rest ih => exact ih (dense_step h a)

/-- However calls of threads and changes of the sink follow each other, the lines of every display
are numbered densely. So the line of a known item is at least one and at most all lines above the
bottom, and whatever a call meets of its sink, the cursor is moved by numbers of lines that are not
negative, up to the line of a known item and down again by one less. -/
theorem lines_stay_dense (setup : Logger.Setup) (sink : Sink) (actions : List Action)
    (t : Thread) :
    let s := (start setup sink).1.after actions
    let p := s.display t
    p.Dense ∧
      (∀ item line, p.lines.get? item = some line →
        1 ≤ p.distance item ∧ p.distance item ≤ p.lines.length) ∧
      ∀ view c, s.logger.Motion view p c (s.logger.call view p c).written := by
  intro s p
  have hnew : ∀ t, ((start setup sink).1.display t).Dense := fun _ => Progress.dense_new
  have hdense : p.Dense := dense_after hnew actions t
  exact ⟨hdense, fun _ _ hline => hdense.distance_bounds hline,
    fun view c => s.logger.motion_call view hdense c⟩

/- Two threads take turns. The end of the first display comes while info lines are hidden, so the
display is left open; the update after it has no color. -/
theorem lines_stay_dense_unfinished :
    let actions : List Action :=
      [.call (.named "pull") (.progressUpdate "app" "Pulling" none),
       .call (.named "push") (.progressUpdate "log" "Pushing" none),
       .call (.named "pull") (.progressUpdate "db" "Waiting" none),
       .setSink (.recording false false),
       .call (.named "pull") .progressFinish,
       .call (.named "push") .progressStart,
       .setSink (.recording true true),
       .call (.named "pull") (.progressUpdate "new" "Pulling" none)]
    let p := ((start {} (.recording false true)).1.after actions).display (.named "pull")
    p.lines.keys = ["app", "db"] ∧ p.lines.map Prod.snd = [0, 1] ∧
      p.lines.get? "db" = some 1 ∧ 1 ≤ p.distance "db" ∧ p.distance "db" ≤ p.lines.length := by
  intro actions p
  obtain ⟨hdense, hbounds, -⟩ :=
    lines_stay_dense {} (.recording false true) actions (.named "pull")
  have hkeys : p.lines.keys = ["app", "db"] := by decide
  have hlength : p.lines.length = 2 := by decide
  have hline : p.lines.get? "db" = some 1 := by decide
  refine ⟨hkeys, ?_, hline, hbounds "db" 1 hline⟩
  rw [hdense.numbers, hlength]
  rfl

end Session

end MarkupLog
