import Mathlib.Algebra.Order.Floor.Div
import Mathlib.Data.List.DropRight
import MarkupLog.Proofs.Isolation

/-!
# Progress without color

Without color, an update of a progress display writes no row. It counts, and marks that it does:
with a `#` at the start of every ten updates, and a new line at the start of every four hundred.
What counts is said here by the calls of a thread: its updates without color since it last started
its display anew. However such updates mix with other calls and with changes of the sink, their
marks together are those of as many updates in a row.
-/

namespace MarkupLog

namespace Progress

/-! ### The marks of a number of updates -/

/-- The marks of the first updates without color. -/
def marks (n : Nat) : List Char :=
  (List.range n).flatMap fun k => (plainText k).toList

theorem marks_succ (n : Nat) : marks (n + 1) = marks n ++ (plainText n).toList := by
  rw [marks, List.range_succ, List.flatMap_append, List.flatMap_singleton]
  rfl

theorem toList_plainText (n : Nat) :
    (plainText n).toList =
      (if n % 10 = 0 then ['#'] else []) ++ (if n % 400 = 0 then ['\n'] else []) := by
  rw [plainText, String.toList_append]
  split <;> split <;> rfl

/- The line is ended right after a mark, and nothing follows. -/
theorem newline_in_plainText {n : Nat} {before after : List Char}
    (h : (plainText n).toList = before ++ '\n' :: after) :
    n % 400 = 0 ∧ before = ['#'] ∧ after = [] := by
  rw [toList_plainText] at h
  by_cases hline : n % 400 = 0
  · have hten : n % 10 = 0 := by omega
    rw [if_pos hten, if_pos hline, List.singleton_append] at h
    cases before with
    | nil => simp at h
    | cons c rest =>
      obtain ⟨hc, hrest⟩ := List.cons.inj h
      obtain ⟨hnil, hafter⟩ : rest = [] ∧ after = [] := by
        cases rest <;> simp_all
      exact ⟨hline, by rw [hnil, hc], hafter⟩
  · have hmem : '\n' ∈ (if n % 10 = 0 then ['#'] else []) ++ [] := by
      rw [if_neg hline] at h
      rw [h]
      simp
    split at hmem <;> simp at hmem

theorem mem_marks {n : Nat} {c : Char} (h : c ∈ marks n) : c = '#' ∨ c = '\n' := by
  obtain ⟨k, -, hc⟩ := List.mem_flatMap.mp h
  rw [toList_plainText, List.mem_append] at hc
  rcases hc with hc | hc <;> split at hc <;> simp_all

/- One more update adds to the rounded quotient just where it starts a new period. -/
theorem ceilDiv_succ (n : Nat) {period : Nat} (h : 0 < period) :
    (n + 1) ⌈/⌉ period = n ⌈/⌉ period + if n % period = 0 then 1 else 0 := by
  have hsucc : n + 1 + period - 1 = (n + period - 1) + 1 := by omega
  have hlast : n + period - 1 + 1 = n + period := by omega
  rw [Nat.ceilDiv_eq_add_pred_div, Nat.ceilDiv_eq_add_pred_div, hsucc, Nat.succ_div, hlast]
  simp only [Nat.dvd_iff_mod_eq_zero, Nat.add_mod_right]

/- By induction on the number of updates. -/
theorem count_marks {c : Char} {period : Nat} (hperiod : 0 < period)
    (hc : ∀ k, (plainText k).toList.count c = if k % period = 0 then 1 else 0) (n : Nat) :
    (marks n).count c = n ⌈/⌉ period := by
  induction n with
  | zero => rw [zero_ceilDiv]; rfl
  | succ n ih => rw [marks_succ, List.count_append, ih, hc, ceilDiv_succ n hperiod]

theorem count_hash_marks (n : Nat) : (marks n).count '#' = n ⌈/⌉ 10 := by
  refine count_marks (by decide) ?_ n
  intro k
  rw [toList_plainText]
  split <;> split <;> rfl

theorem count_newline_marks (n : Nat) : (marks n).count '\n' = n ⌈/⌉ 400 := by
  refine count_marks (by decide) ?_ n
  intro k
  rw [toList_plainText]
  split <;> split <;> rfl

/- By induction on the number of updates: the line ends in the marks of the last update, or it was
ended before. -/
theorem marks_up_to_newline {n : Nat} {before after : List Char}
    (h : marks n = before ++ '\n' :: after) :
    ∃ k, k % 400 = 0 ∧ before ++ ['\n'] = marks (k + 1) := by
  induction n generalizing after with
  | zero => simp [marks] at h
  | succ n ih =>
    rw [marks_succ] at h
    rcases List.append_eq_append_iff.mp h with ⟨early, hbefore, hlast⟩ | ⟨late, hmarks, hafter⟩
    · obtain ⟨hline, -, rfl⟩ := newline_in_plainText hlast
      refine ⟨n, hline, ?_⟩
      rw [hbefore, marks_succ, hlast, List.append_assoc]
    · cases late with
      | nil =>
        have hlast : (plainText n).toList = [] ++ '\n' :: after := hafter.symm
        exact absurd (newline_in_plainText hlast).2.1 (by simp)
      | cons c rest =>
        obtain ⟨rfl, -⟩ := List.cons.inj hafter
        exact ih hmarks

/- Up to a first line end there is one period of lines at most, so the line end is that of the
first update. -/
theorem marks_up_to_first_newline {n : Nat} {before after : List Char}
    (h : marks n = before ++ '\n' :: after) (hfirst : '\n' ∉ before) : before = ['#'] := by
  obtain ⟨k, hline, hk⟩ := marks_up_to_newline h
  have hlines : 1 = (k + 1) ⌈/⌉ 400 := by
    rw [← count_newline_marks, ← hk, List.count_append, List.count_eq_zero_of_not_mem hfirst]
    rfl
  rw [Nat.ceilDiv_eq_add_pred_div] at hlines
  have hzero : k = 0 := by omega
  subst hzero
  exact List.append_cancel_right (hk.trans (by decide : marks 1 = ['#'] ++ ['\n']))

/- The updates up to two line ends that follow each other differ by one period of lines, hence by
forty periods of marks. -/
theorem marks_between_newlines {n : Nat} {before between after : List Char}
    (h : marks n = before ++ '\n' :: (between ++ '\n' :: after)) (hnext : '\n' ∉ between) :
    between = List.replicate 40 '#' := by
  have hsecond : marks n = (before ++ '\n' :: between) ++ '\n' :: after := by
    rw [h, List.append_assoc, List.cons_append]
  obtain ⟨k, hk, hto⟩ := marks_up_to_newline h
  obtain ⟨j, hj, hfrom⟩ := marks_up_to_newline hsecond
  have hsplit : marks (j + 1) = marks (k + 1) ++ (between ++ ['\n']) := by
    rw [← hto, ← hfrom]
    simp
  have hlines : (j + 1) ⌈/⌉ 400 = (k + 1) ⌈/⌉ 400 + 1 := by
    rw [← count_newline_marks, ← count_newline_marks, hsplit, List.count_append, List.count_append,
      List.count_eq_zero_of_not_mem hnext]
    rfl
  have hmarks : (j + 1) ⌈/⌉ 10 = (k + 1) ⌈/⌉ 10 + between.count '#' := by
    rw [← count_hash_marks, ← count_hash_marks, hsplit, List.count_append, List.count_append]
    rfl
  have hcount : between.count '#' = 40 := by
    simp only [Nat.ceilDiv_eq_add_pred_div] at hlines hmarks
    omega
  have hall : ∀ c ∈ between, '#' = c := by
    intro c hc
    have hmem : c ∈ marks n := by simp [h, hc]
    rcases mem_marks hmem with rfl | rfl
    · rfl
    · exact absurd hc hnext
  rw [← hcount, List.count_eq_length.mpr hall]
  exact List.eq_replicate_length.mpr fun c hc => (hall c hc).symm

/-- What is shown of a number of updates: a `#` for every ten of them and a new line for every four
hundred, begun or full, the first new line right after the first `#`, and forty `#` between any two
new lines that follow each other. -/
structure MarkedExactly (n : Nat) (written : List Char) : Prop where
  hashes : written.count '#' = n ⌈/⌉ 10
  newlines : written.count '\n' = n ⌈/⌉ 400
  only : ∀ c ∈ written, c = '#' ∨ c = '\n'
  first : ∀ before after, written = before ++ '\n' :: after → '\n' ∉ before → before = ['#']
  between : ∀ before between after, written = before ++ '\n' :: (between ++ '\n' :: after) →
    '\n' ∉ between → between = List.replicate 40 '#'

theorem markedExactly_marks (n : Nat) : MarkedExactly n (marks n) where
  hashes := count_hash_marks n
  newlines := count_newline_marks n
  only _ h := mem_marks h
  first _ _ h hfirst := marks_up_to_first_newline h hfirst
  between _ _ _ h hnext := marks_between_newlines h hnext

end Progress

/-! ### What is counted -/

namespace Logger

/-- Whether a call starts the display anew. It does not while it is suppressed. -/
def restarts (l : Logger) (view : SinkView) : Call → Bool
  | .progressStart => l.showsProgress view
  | _ => false

/-- Whether a call is an update of an item without color that is not suppressed. -/
def countsUpdate (l : Logger) (view : SinkView) : Call → Bool
  | .progressUpdate item _ _ => item != "" && l.showsProgress view && !l.inColor view
  | _ => false

/-- The calls that have no part in the count: ends of displays, calls that are not about progress,
suppressed calls, and updates in color. -/
def PassesOver (l : Logger) (view : SinkView) (c : Call) : Prop :=
  c = .progressFinish ∨ c.isProgress = false ∨ l.showsProgress view = false ∨
    l.inColor view = true ∧ ∃ item status message, c = .progressUpdate item status message

variable {l : Logger} {view : SinkView} {c : Call}

theorem countsUpdate_eq_true_iff :
    l.countsUpdate view c = true ↔ ∃ item status message, c = .progressUpdate item status message ∧
      item ≠ "" ∧ l.showsProgress view = true ∧ l.inColor view = false := by
  cases c <;> simp [countsUpdate, and_assoc]

theorem PassesOver.restarts (h : l.PassesOver view c) : l.restarts view c = false := by
  rcases h with rfl | h | h | ⟨-, item, status, message, rfl⟩
  · rfl
  · cases c with
    | progressStart => cases h
    | _ => rfl
  · cases c with
    | progressStart => exact h
    | _ => rfl
  · rfl

theorem PassesOver.countsUpdate (h : l.PassesOver view c) : l.countsUpdate view c = false := by
  rw [Bool.eq_false_iff, ne_eq, countsUpdate_eq_true_iff]
  rintro ⟨item, status, message, rfl, -, hshown, hplain⟩
  rcases h with h | h | h | ⟨h, -⟩
  · cases h
  · cases h
  · rw [h] at hshown
    cases hshown
  · rw [h] at hplain
    cases hplain

theorem written_of_countsUpdate (p : Progress) (h : l.countsUpdate view c = true) :
    (l.call view p c).written = Progress.plainText p.updates := by
  obtain ⟨item, status, message, rfl, hitem, hshown, hplain⟩ := countsUpdate_eq_true_iff.mp h
  simp [call, update, hitem, hshown, hplain]

theorem updates_withItem (p : Progress) (item : String) :
    (p.withItem item).updates = p.updates := by
  unfold Progress.withItem
  split <;> rfl

theorem updates_call (l : Logger) (view : SinkView) (p : Progress) (c : Call) :
    (l.call view p c).progress.updates =
      if l.restarts view c = true then 0
      else if l.countsUpdate view c = true then p.updates + 1
      else p.updates := by
  cases c with
  | progressStart =>
    cases hshown : l.showsProgress view <;>
      simp [call, restarts, countsUpdate, hshown, Progress.start]
  | progressUpdate item status message =>
    by_cases hitem : item = ""
    · simp [call, update, restarts, countsUpdate, hitem]
    · cases hshown : l.showsProgress view <;> cases hcolor : l.inColor view <;>
        simp [call, update, restarts, countsUpdate, hitem, hshown, hcolor, updates_withItem]
  | progressFinish =>
    cases hshown : l.showsProgress view <;>
      simp [call, finish, restarts, countsUpdate, hshown, Progress.finish]
  | _ =>
    rw [call_keeps_display _ _ _ rfl]
    rfl

end Logger

namespace Session

/-- The session after actions, whether they fail or not. -/
def after (s : Session) (actions : List Action) : Session :=
  actions.foldl (fun r a => (r.step a).1) s

/-- The actions of a run, each with the session that it meets. -/
def moments (s : Session) : List Action → List (Session × Action)
  | [] => []
  | a :: rest => (s, a) :: (s.step a).1.moments rest

theorem moments_concat (s : Session) (actions : List Action) (a : Action) :
    s.moments (actions ++ [a]) = s.moments actions ++ [(s.after actions, a)] := by
  induction actions generalizing s with
  | nil => rfl
  | cons b rest ih => rw [List.cons_append, moments, ih]; rfl

theorem after_concat (s : Session) (actions : List Action) (a : Action) :
    s.after (actions ++ [a]) = ((s.after actions).step a).1 :=
  List.foldl_concat ..

def restarts (s : Session) (t : Thread) : Action → Bool
  | .setSink _ => false
  | .call thread c => thread = t && s.logger.restarts s.sink.view c

def countsUpdate (s : Session) (t : Thread) : Action → Bool
  | .setSink _ => false
  | .call thread c => thread = t && s.logger.countsUpdate s.sink.view c

/-- The updates of a thread without color since its display was last started anew. -/
def plainUpdates (s : Session) (t : Thread) (actions : List Action) : List (Session × Action) :=
  ((s.moments actions).rtakeWhile fun m => !m.1.restarts t m.2).filter fun m =>
    m.1.countsUpdate t m.2

/-- All that these updates have written. -/
def plainWritten (s : Session) (t : Thread) (actions : List Action) : List Char :=
  (s.plainUpdates t actions).flatMap fun m => (m.1.step m.2).2.written.toList

variable {s : Session} {t : Thread}

theorem plainUpdates_concat (s : Session) (t : Thread) (actions : List Action) (a : Action) :
    s.plainUpdates t (actions ++ [a]) =
      if (s.after actions).restarts t a = true then []
      else if (s.after actions).countsUpdate t a = true then
        s.plainUpdates t actions ++ [(s.after actions, a)]
      else s.plainUpdates t actions := by
  unfold plainUpdates
  rw [moments_concat, List.rtakeWhile_concat]
  cases (s.after actions).restarts t a with
  | true => rfl
  | false =>
    rw [Bool.not_false, if_pos rfl, List.filter_append]
    cases h : (s.after actions).countsUpdate t a <;> simp [h]

/-! ### Single actions -/

theorem updates_step (s : Session) (t : Thread) (a : Action) :
    ((s.step a).1.display t).updates =
      if s.restarts t a = true then 0
      else if s.countsUpdate t a = true then (s.display t).updates + 1
      else (s.display t).updates := by
  cases a with
  | setSink sink => rfl
  | call thread c =>
    rw [display_step]
    by_cases hthread : thread = t
    · subst hthread
      rw [if_pos rfl, Logger.updates_call]
      simp only [restarts, countsUpdate, decide_true, Bool.true_and]
    · simp only [restarts, countsUpdate, hthread, decide_false, Bool.false_and, if_false,
        Bool.false_eq_true]

theorem written_of_countsUpdate {a : Action} (h : s.countsUpdate t a = true) :
    (s.step a).2.written = Progress.plainText (s.display t).updates := by
  cases a with
  | setSink sink => cases h
  | call thread c =>
    obtain ⟨rfl, hc⟩ : thread = t ∧ _ := by simpa [countsUpdate] using h
    exact Logger.written_of_countsUpdate (s.display thread) hc

/-! ### Runs -/

/- By induction on the actions, the last one first: the display has counted what is said to be
counted, and this has written the marks of a display that counts from zero. -/
theorem plainUpdates_marks (hnew : (s.display t).updates = 0) (actions : List Action) :
    ((s.after actions).display t).updates = (s.plainUpdates t actions).length ∧
      s.plainWritten t actions = Progress.marks (s.plainUpdates t actions).length := by
  induction actions using List.reverseRecOn with
  | nil => exact ⟨hnew, rfl⟩
  | append_singleton actions a ih =>
    obtain ⟨hcount, hwritten⟩ := ih
    have hstep := updates_step (s.after actions) t a
    unfold plainWritten at hwritten ⊢
    rw [after_concat, hstep, plainUpdates_concat]
    cases hrestarts : (s.after actions).restarts t a with
    | true => exact ⟨rfl, rfl⟩
    | false =>
      cases hcounts : (s.after actions).countsUpdate t a with
      | true =>
        have hlast := written_of_countsUpdate hcounts
        simp only [Bool.false_eq_true, if_false, if_true, List.length_append, List.length_singleton]
        refine ⟨by rw [hcount], ?_⟩
        rw [List.flatMap_append, List.flatMap_singleton, hwritten, hlast, hcount,
          Progress.marks_succ]
      | false => exact ⟨hcount, hwritten⟩

/-- However calls and changes of the sink follow each other, the updates without color since the
last start show their number exactly. That number is what the display has counted, and calls that
have no part in the count leave it as it is. -/
theorem plain_progress_counts (setup : Logger.Setup) (sink : Sink) (t : Thread)
    (actions : List Action) :
    let s := (start setup sink).1
    Progress.MarkedExactly (s.plainUpdates t actions).length (s.plainWritten t actions) ∧
      ((s.after actions).display t).updates = (s.plainUpdates t actions).length ∧
      ∀ c, (s.after actions).logger.PassesOver (s.after actions).sink.view c →
        s.plainUpdates t (actions ++ [.call t c]) = s.plainUpdates t actions ∧
          ((s.after (actions ++ [.call t c])).display t).updates =
            (s.plainUpdates t actions).length := by
  intro s
  have hnew : (s.display t).updates = 0 := rfl
  obtain ⟨hcount, hwritten⟩ := plainUpdates_marks hnew actions
  refine ⟨hwritten ▸ Progress.markedExactly_marks _, hcount, ?_⟩
  intro c hc
  have hsame : s.plainUpdates t (actions ++ [.call t c]) = s.plainUpdates t actions := by
    rw [plainUpdates_concat]
    simp [restarts, countsUpdate, hc.restarts, hc.countsUpdate]
  refine ⟨hsame, ?_⟩
  rw [(plainUpdates_marks hnew _).1, hsame]

/- Between the two updates that count there are one without an item, one in color, the end of the
display, and, while info lines are hidden, another update and a start. -/
theorem plain_progress_counts_mixed :
    let s := (start {} (.recording true true)).1
    let actions : List Action :=
      [.call .main (.progressUpdate "app" "Pulling" none),
       .call .main (.progressUpdate "" "Pulling" none),
       .setSink (.recording false true),
       .call .main (.progressUpdate "app" "Pulling" none),
       .call .main .progressFinish,
       .setSink (.recording true false),
       .call .main (.progressUpdate "app" "Hidden" none),
       .call .main .progressStart,
       .setSink (.recording true true),
       .call .main (.progressUpdate "db" "Waiting" none)]
    s.plainWritten .main actions = ['#', '\n'] ∧
      ((s.after (actions ++ [.call .main .progressFinish])).display .main).updates = 2 := by
  intro s actions
  have hlength : (s.plainUpdates .main actions).length = 2 := by decide
  have hcounts := plain_progress_counts {} (.recording true true) .main actions
  exact ⟨by decide, (hcounts.2.2 .progressFinish (.inl rfl)).2.trans hlength⟩

end Session

end MarkupLog
