import MarkupLog.Logger.Session
import MarkupLog.Proofs.ProgressLines
import MarkupLog.Proofs.Screen

/-!
# Progress displays on a screen

A run of progress calls asks for a sequence of displays: each start or end of a display that is not
suppressed closes the display before it, and each update belongs to the display that is open. What a
display is meant to show is said here by its updates alone, one row for each item. Played on a
screen, the text of a run shows exactly these rows, whatever the order in which items return.
-/

namespace MarkupLog.Progress

open Terminal

/-! ### What a display is meant to show -/

structure Update where
  item : String
  status : String
  message : String
  deriving Repr, DecidableEq

namespace Update

def cells (palette : Palette) (u : Update) : List Cell :=
  Terminal.cells (some palette.progressId) u.item ++ Terminal.cells none ": " ++
    Terminal.cells (some palette.progressStatus) (Text.padRight 11 u.status) ++
    Terminal.cells (some palette.progressStatus) " " ++
    Terminal.cells (some palette.progressBar) u.message

/-- The items of updates in the order of their first updates. -/
def items (us : List Update) : List String :=
  (us.map Update.item).eraseDups

/-- The row of an item: its last update. -/
def rowOf (palette : Palette) (us : List Update) (item : String) : List Cell :=
  ((us.filter fun u => u.item = item).getLast?).elim [] (cells palette)

def rows (palette : Palette) (us : List Update) : List (List Cell) :=
  (items us).map (rowOf palette us)

theorem items_append (us : List Update) (u : Update) :
    items (us ++ [u]) = if u.item ∈ items us then items us else items us ++ [u.item] := by
  have hmem : u.item ∈ items us ↔ (us.map Update.item).contains u.item = true := by
    rw [items, List.mem_eraseDups, List.contains_iff_mem]
  unfold items
  rw [List.map_append, List.map_cons, List.map_nil, List.eraseDups_append, List.cons_removeAll,
    List.nil_removeAll]
  by_cases h : u.item ∈ items us
  · have hc := hmem.mp h
    rw [hc, if_neg (by decide), List.eraseDups_nil, List.append_nil]
    exact (if_pos h).symm
  · have hc : (us.map Update.item).contains u.item = false := by
      simpa using mt hmem.mpr h
    rw [hc, if_pos rfl, List.eraseDups_cons, List.filter_nil, List.eraseDups_nil]
    exact (if_neg h).symm

theorem nodup_eraseDups : ∀ names : List String, names.eraseDups.Nodup
  | [] => List.nodup_nil
  | name :: rest => by
    have hshorter := List.length_filter_le (fun x => !x == name) rest
    rw [List.eraseDups_cons, List.nodup_cons, List.mem_eraseDups, List.mem_filter]
    exact ⟨by simp, nodup_eraseDups _⟩
termination_by names => names.length
decreasing_by exact Nat.lt_succ_of_le hshorter

theorem items_nodup (us : List Update) : (items us).Nodup :=
  nodup_eraseDups (us.map Update.item)

theorem rowOf_append_self (palette : Palette) (us : List Update) (u : Update) :
    rowOf palette (us ++ [u]) u.item = u.cells palette := by
  simp [rowOf, List.filter_append]

theorem rowOf_append_other (palette : Palette) (us : List Update) (u : Update) (item : String)
    (h : u.item ≠ item) : rowOf palette (us ++ [u]) item = rowOf palette us item := by
  simp [rowOf, List.filter_append, h]

theorem rows_append_new (palette : Palette) (us : List Update) (u : Update)
    (h : u.item ∉ items us) : rows palette (us ++ [u]) = rows palette us ++ [u.cells palette] := by
  have hothers : (items us).map (rowOf palette (us ++ [u])) = rows palette us := by
    refine List.map_congr_left ?_
    intro item hitem
    exact rowOf_append_other palette us u item (fun e => h (e ▸ hitem))
  unfold rows at hothers ⊢
  rw [items_append, if_neg h, List.map_append, hothers, List.map_singleton, rowOf_append_self]

theorem rows_append_known (palette : Palette) (us : List Update) (u : Update)
    (h : u.item ∈ items us) :
    rows palette (us ++ [u]) = (rows palette us).set ((items us).idxOf u.item) (u.cells palette) := by
  unfold rows
  rw [items_append, if_pos h]
  refine List.ext_getElem (by simp) ?_
  intro i hi hi'
  rw [List.length_map] at hi
  rw [List.getElem_map, List.getElem_set, List.getElem_map]
  by_cases hplace : (items us).idxOf u.item = i
  · subst hplace
    rw [if_pos rfl, List.getElem_idxOf, rowOf_append_self]
  · have hother : u.item ≠ (items us)[i] := by
      intro e
      have hidx : (items us).idxOf (items us)[i] = i := (items_nodup us).idxOf_getElem i hi
      exact hplace (e ▸ hidx)
    rw [if_neg hplace, rowOf_append_other palette us u _ hother]

end Update

/-! ### One update on a screen -/

theorem fills_row (palette : Palette) (u : Update) (hitem : Printable u.item)
    (hstatus : Printable u.status) (hmessage : Printable u.message) :
    Screen.Fills (row palette u.item u.status u.message) (u.cells palette) := by
  intro s
  have hcells : s.write (u.cells palette) =
      ((((s.write (cells (some palette.progressId) u.item)).write (cells none ": ")).write
        (cells (some palette.progressStatus) (Text.padRight 11 u.status))).write
        (cells (some palette.progressStatus) " ")).write
        (cells (some palette.progressBar) u.message) := by
    simp only [Screen.write_append, Update.cells]
  have hpadded : Printable (Text.padRight 11 u.status) :=
    (printable_append _ _).mpr ⟨hstatus, printable_spaces _⟩
  have hname := Device.play_append (Screen.play_foreground s palette.progressId)
    (Screen.play_text _ u.item hitem)
  have hcolon := Device.play_append (Device.play_append hname (Screen.play_reset _))
    (Screen.play_text _ ": " (by decide))
  have hword := Device.play_append
    (Device.play_append hcolon (Screen.play_foreground _ palette.progressStatus))
    (Screen.play_text _ _ hpadded)
  have hspace := Device.play_append hword (Screen.play_text _ " " (by decide))
  have hbar := Device.play_append
    (Device.play_append hspace (Screen.play_foreground _ palette.progressBar))
    (Screen.play_text _ u.message hmessage)
  rw [hcells]
  exact ⟨some palette.progressBar, Device.play_append hbar (Screen.play_newline _)⟩

theorem Numbered.withItem {p : Progress} {us : List Update} (h : p.Numbered (Update.items us))
    (u : Update) : (p.withItem u.item).Numbered (Update.items (us ++ [u])) := by
  rw [Update.items_append]
  by_cases hknown : u.item ∈ Update.items us
  · rw [if_pos hknown]
    exact h.withItem_known hknown
  · rw [if_neg hknown]
    exact h.withItem_new hknown

theorem shows_coloredText (palette : Palette) (p : Progress) (above : List (List Cell))
    (us : List Update) (u : Update) (screen : Screen) (hp : p.Numbered (Update.items us))
    (hrow : Screen.Fills (row palette u.item u.status u.message) (u.cells palette))
    (hs : screen.Shows (above ++ Update.rows palette us)) :
    ∃ screen', Screen.device.play screen (p.coloredText palette u.item u.status u.message) =
        (.plain, screen') ∧
      screen'.Shows (above ++ Update.rows palette (us ++ [u])) := by
  have hlength : (Update.rows palette us).length = (Update.items us).length :=
    List.length_map ..
  unfold coloredText
  by_cases hknown : u.item ∈ Update.items us
  · have hplace := List.idxOf_lt_length_of_mem hknown
    have hdistance := hp.distance_known hknown
    have hbelow : above.length + (Update.items us).idxOf u.item <
        (above ++ Update.rows palette us).length := by
      rw [List.length_append, hlength]
      omega
    have hup : (((above ++ Update.rows palette us).length : Nat) : Int) -
        ((above.length + (Update.items us).idxOf u.item : Nat) : Int) = p.distance u.item := by
      rw [hdistance, List.length_append, hlength]
      omega
    obtain ⟨screen', hplay, hshows⟩ := hs.rewriteRow hrow _ hbelow
    rw [hup] at hplay
    refine ⟨screen', ?_, ?_⟩
    · have hpositive : 0 < p.distance u.item := by omega
      simp only [hpositive, if_true]
      exact hplay
    · rw [Update.rows_append_known palette us u hknown]
      rw [List.set_append_right _ _ (Nat.le_add_right ..), Nat.add_sub_cancel_left] at hshows
      exact hshows
  · have hdistance := hp.distance_new hknown
    obtain ⟨screen', hplay, hshows⟩ := hs.newRow hrow
    refine ⟨screen', ?_, ?_⟩
    · rw [hdistance]
      exact hplay
    · rw [Update.rows_append_new palette us u hknown, ← List.append_assoc]
      exact hshows

/-! ### What a run asks for -/

/-- Whether info lines are shown at the moment, the displays that are closed, and the updates of the
open one. -/
structure History where
  shown : Bool
  closed : List (List Update) := []
  current : List Update := []

namespace History

def close (h : History) : History :=
  { h with closed := h.closed ++ [h.current], current := [] }

/-- An update without an item is ignored, and so is any call while info lines are not shown. -/
def next (h : History) : Action → History
  | .setSink sink => { h with shown := sink.view.infoEnabled }
  | .call _ .progressStart => if h.shown then h.close else h
  | .call _ .progressFinish => if h.shown then h.close else h
  | .call _ (.progressUpdate item status message) =>
    if h.shown = true ∧ item ≠ "" then
      { h with current := h.current ++ [⟨item, status, message.getD ""⟩] }
    else h
  | .call _ _ => h

def ofActions (sink : Sink) (actions : List Action) : History :=
  actions.foldl next { shown := sink.view.infoEnabled }

/-- The rows of the closed displays. -/
def above (palette : Palette) (h : History) : List (List Cell) :=
  h.closed.flatMap (Update.rows palette)

theorem rows_close (palette : Palette) (h : History) :
    h.close.above palette ++ Update.rows palette h.close.current =
      h.above palette ++ Update.rows palette h.current := by
  simp [above, close, Update.rows, Update.items]

end History

/-- A progress call of the thread with printable texts, or a change to a sink that is not in debug
mode. -/
def Drives (t : Thread) : Action → Prop
  | .setSink sink => sink.view.debugMode = false
  | .call thread .progressStart => thread = t
  | .call thread .progressFinish => thread = t
  | .call thread (.progressUpdate item status message) =>
    thread = t ∧ Printable item ∧ Printable status ∧ Printable (message.getD "")
  | .call _ _ => False

/-! ### Sessions and screens -/

/-- A session whose display, together with the screen behind it, stands where the history says. -/
structure Tracks (t : Thread) (palette : Palette) (s : Session) (screen : Screen) (h : History) :
    Prop where
  batch : s.logger.batchMode = false
  color : s.logger.useColor = true
  colors : s.logger.palette = palette
  debug : s.sink.view.debugMode = false
  info : s.sink.view.infoEnabled = h.shown
  numbered : (s.display t).Numbered (Update.items h.current)
  shows : screen.Shows (h.above palette ++ Update.rows palette h.current)

namespace Tracks

variable {t : Thread} {palette : Palette} {s : Session} {screen : Screen} {h : History}

theorem showsProgress (ht : Tracks t palette s screen h) :
    s.logger.showsProgress s.sink.view = h.shown := by
  rw [Logger.showsProgress, ht.batch, ht.info, Bool.not_false, Bool.true_and]

theorem inColor (ht : Tracks t palette s screen h) : s.logger.inColor s.sink.view = true := by
  rw [Logger.inColor, ht.color, ht.debug, Bool.not_false, Bool.true_and]

/-- The action succeeds, and the screen that its text leads to is tracked after it. -/
def Advances (t : Thread) (palette : Palette) (s : Session) (screen : Screen) (h : History)
    (a : Action) : Prop :=
  (s.step a).2.reply = .ok .nothing ∧
  ∃ screen', Screen.device.play screen (s.step a).2.written = (.plain, screen') ∧
    Tracks t palette (s.step a).1 screen' (h.next a)

/- A call leaves the logger alone, the sink in the same view, and the display of its outcome. -/
theorem advances_call (ht : Tracks t palette s screen h) (c : Call) (o : Outcome)
    (screen' : Screen) (h' : History)
    (houtcome : s.logger.call s.sink.view (s.display t) c = o)
    (hnext : h.next (.call t c) = h')
    (hreply : o.reply = .ok .nothing)
    (hplay : Screen.device.play screen o.written = (.plain, screen'))
    (hinfo : h'.shown = h.shown)
    (hnumbered : o.progress.Numbered (Update.items h'.current))
    (hshows : screen'.Shows (h'.above palette ++ Update.rows palette h'.current)) :
    Advances t palette s screen h (.call t c) := by
  subst houtcome hnext
  have hview := Session.view_settled s.sink (s.logger.call s.sink.view (s.display t) c)
  refine ⟨hreply, screen', hplay, ht.batch, ht.color, ht.colors, ?_, ?_, ?_, hshows⟩
  · show (Session.settled s.sink _).view.debugMode = false
    rw [hview, ht.debug]
  · show (Session.settled s.sink _).view.infoEnabled = _
    rw [hview, ht.info, hinfo]
  · show (((s.displays.put t _).get? t).getD {}).Numbered _
    rw [Entries.get?_put, if_pos rfl]
    exact hnumbered

theorem advances_start (ht : Tracks t palette s screen h) :
    Advances t palette s screen h (.call t .progressStart) := by
  cases hshown : h.shown with
  | false =>
    refine ht.advances_call _ _ screen h rfl ?_ rfl (Device.play_empty _ _) rfl ?_ ht.shows
    · simp only [History.next, hshown, Bool.false_eq_true, if_false]
    · simp only [Logger.call, ht.showsProgress, hshown, Bool.false_eq_true, if_false]
      exact ht.numbered
  | true =>
    refine ht.advances_call _ _ screen h.close rfl ?_ rfl (Device.play_empty _ _) rfl ?_ ?_
    · simp only [History.next, hshown, if_true]
    · simp only [Logger.call, ht.showsProgress, hshown, if_true]
      rfl
    · rw [History.rows_close]
      exact ht.shows

theorem advances_finish (ht : Tracks t palette s screen h) :
    Advances t palette s screen h (.call t .progressFinish) := by
  cases hshown : h.shown with
  | false =>
    refine ht.advances_call _
      { asked := s.logger.progressQuestions, progress := s.display t } screen h ?_ ?_ rfl
      (Device.play_empty _ _) rfl ht.numbered ht.shows
    · simp only [Logger.call, Logger.finish, ht.showsProgress, hshown, Bool.false_eq_true, if_false]
    · simp only [History.next, hshown, Bool.false_eq_true, if_false]
  | true =>
    refine ht.advances_call _
      { asked := s.logger.progressQuestions ++ s.logger.colorQuestions
        written := Progress.finishText true
        flushes := 1
        progress := (s.display t).finish } { screen with pen := none } h.close ?_ ?_ rfl
      (Screen.play_reset screen) rfl rfl ?_
    · simp only [Logger.call, Logger.finish, ht.showsProgress, ht.inColor, hshown, if_true]
    · simp only [History.next, hshown, if_true]
    · rw [History.rows_close]
      exact ⟨ht.shows.cell, ht.shows.row, ht.shows.col⟩

theorem advances_update (ht : Tracks t palette s screen h) (item status : String)
    (message : Option String) (hitem : Printable item) (hstatus : Printable status)
    (hmessage : Printable (message.getD "")) :
    Advances t palette s screen h (.call t (.progressUpdate item status message)) := by
  by_cases hactive : h.shown = true ∧ item ≠ ""
  · obtain ⟨hshown, hnamed⟩ := hactive
    have hrow := fills_row palette ⟨item, status, message.getD ""⟩ hitem hstatus hmessage
    obtain ⟨screen', hplay, hshows⟩ := shows_coloredText palette (s.display t)
      (h.above palette) h.current ⟨item, status, message.getD ""⟩ screen ht.numbered hrow ht.shows
    refine ht.advances_call _
      { asked := s.logger.progressQuestions ++ s.logger.colorQuestions
        written := (s.display t).coloredText palette item status (message.getD "")
        flushes := 1
        progress := (s.display t).withItem item } screen'
      { h with current := h.current ++ [⟨item, status, message.getD ""⟩] } ?_ ?_ rfl hplay rfl
      (ht.numbered.withItem ⟨item, status, message.getD ""⟩) hshows
    · simp only [Logger.call, Logger.update, hnamed, ht.showsProgress, ht.inColor, hshown,
        ht.colors, Bool.true_eq_false, if_false, if_true]
    · simp only [History.next, hshown, hnamed, ne_eq, not_false_eq_true, and_self, if_true]
  · have hidle : (s.logger.call s.sink.view (s.display t)
        (.progressUpdate item status message)).written = "" ∧
        (s.logger.call s.sink.view (s.display t)
          (.progressUpdate item status message)).progress = s.display t ∧
        (s.logger.call s.sink.view (s.display t)
          (.progressUpdate item status message)).reply = .ok .nothing := by
      by_cases hnamed : item = ""
      · simp only [Logger.call, Logger.update, hnamed, if_true, and_self]
      · have hhidden : h.shown = false := by
          simpa [hnamed] using hactive
        simp only [Logger.call, Logger.update, hnamed, ht.showsProgress, hhidden, if_true,
          if_false, and_self]
    obtain ⟨hwritten, hprogress, hreply⟩ := hidle
    refine ht.advances_call _ _ screen h rfl ?_ hreply ?_ rfl ?_ ht.shows
    · simp only [History.next, hactive, if_false]
    · rw [hwritten, Device.play_empty]
    · rw [hprogress]
      exact ht.numbered

theorem advances (ht : Tracks t palette s screen h) (a : Action) (ha : Drives t a) :
    Advances t palette s screen h a := by
  cases a with
  | setSink sink =>
    exact ⟨rfl, screen, Device.play_empty _ _,
      { ht with debug := ha, info := rfl }⟩
  | call thread c =>
    cases c with
    | progressStart =>
      cases ha
      exact ht.advances_start
    | progressFinish =>
      cases ha
      exact ht.advances_finish
    | progressUpdate item status message =>
      obtain ⟨rfl, hitem, hstatus, hmessage⟩ := ha
      exact ht.advances_update item status message hitem hstatus hmessage
    | _ => exact ha.elim

/- By induction on the actions: what is written so far leads to the tracked screen. -/
theorem run (actions : List Action) (ht : Tracks t palette s screen h) (seen : Effect)
    (hseen : Screen.device.play {} seen.written = (.plain, screen))
    (hactions : ∀ a ∈ actions, Drives t a) :
    ∃ screen', Screen.device.play {} (s.run seen actions).2.written = (.plain, screen') ∧
      Tracks t palette (s.run seen actions).1 screen' (actions.foldl History.next h) := by
  induction actions generalizing s screen h seen with
  | nil => exact ⟨screen, hseen, ht⟩
  | cons a rest ih =>
    obtain ⟨hreply, screen', hplay, htracks⟩ := ht.advances a (hactions a (List.mem_cons_self ..))
    have hwritten := Device.play_append hseen hplay
    have hrest : ∀ x ∈ rest, Drives t x := fun x hx => hactions x (List.mem_cons_of_mem _ hx)
    have hrun : s.run seen (a :: rest) =
        (s.step a).1.run (Session.andThen seen (s.step a).2) rest := by
      rw [Session.run]
      simp only [hreply]
    rw [hrun, List.foldl_cons]
    exact ih htracks (Session.andThen seen (s.step a).2) hwritten hrest

theorem of_start (setup : Logger.Setup) (sink : Sink) (t : Thread)
    (hbatch : setup.batchMode = false) (hcolor : setup.useColor = true)
    (hsink : sink.view.debugMode = false) :
    Tracks t setup.palette (Session.start setup sink).1 {} { shown := sink.view.infoEnabled } := by
  have hview := Session.view_settled sink (Logger.build setup).2
  refine ⟨hbatch, hcolor, rfl, ?_, ?_, rfl, Screen.shows_blank⟩
  · show (Session.settled sink (Logger.build setup).2).view.debugMode = false
    rw [hview, hsink]
  · show (Session.settled sink (Logger.build setup).2).view.infoEnabled = _
    rw [hview]

end Tracks

/-- After any run of progress calls the screen shows the rows of the closed displays and below them
one row for each item of the open display, in the order of the items' first updates; the cursor is
at the start of the row below. -/
theorem screen_shows_displays (setup : Logger.Setup) (sink : Sink) (t : Thread)
    (actions : List Action) (hbatch : setup.batchMode = false) (hcolor : setup.useColor = true)
    (hsink : sink.view.debugMode = false) (hactions : ∀ a ∈ actions, Drives t a) :
    ∃ screen, Screen.device.play {} ((Session.start setup sink).1.run {} actions).2.written =
        (.plain, screen) ∧
      screen.Shows ((History.ofActions sink actions).above setup.palette ++
        Update.rows setup.palette (History.ofActions sink actions).current) := by
  have hstart := Tracks.of_start setup sink t hbatch hcolor hsink
  obtain ⟨screen, hplay, htracks⟩ := hstart.run actions {} (Device.play_empty _ _) hactions
  exact ⟨screen, hplay, htracks.shows⟩

/- Items return out of order, one update comes while info lines are hidden, and an item of a closed
display is used again. -/
theorem screen_shows_displays_returning :
    ∃ screen, Screen.device.play {} ((Session.start {} (.recording false true)).1.run {}
        [.call .main (.progressUpdate "app" "Pulling" none),
         .call .main (.progressUpdate "db" "Waiting" none),
         .call .main (.progressUpdate "app" "Done" (some "100%")),
         .setSink (.recording false false),
         .call .main (.progressUpdate "db" "Hidden" none),
         .call .main .progressStart,
         .setSink (.recording false true),
         .call .main (.progressUpdate "db" "Downloading" (some "7%")),
         .call .main .progressFinish,
         .call .main (.progressUpdate "app" "Checking" none)]).2.written = (.plain, screen) ∧
      screen.Shows [Update.cells {} ⟨"app", "Done", "100%"⟩,
        Update.cells {} ⟨"db", "Downloading", "7%"⟩, Update.cells {} ⟨"app", "Checking", ""⟩] :=
  screen_shows_displays {} (.recording false true) .main _ rfl rfl rfl (by
    simp only [List.forall_mem_cons, List.not_mem_nil, false_implies, implies_true, Drives]
    decide)

end MarkupLog.Progress
