import Mathlib.Tactic.ByContra
import MarkupLog.Proofs.Layering

/-!
# Drafts made of settings

A draft that is made of settings names every color in one spelling, and the draft that was frozen
may name few of them in any spelling. Still no source and no freezing can tell the two apart: the
sources are refused alike, and what is frozen afterwards is the same.
-/

namespace MarkupLog

/-! ### Relations that layers keep -/

namespace Change

def Keeps (R : Draft → Draft → Prop) (c : Change) : Prop :=
  ∀ d e, R d e → R (apply d c) (apply e c)

theorem keeps_of {α β : Type} {R : Draft → Draft → Prop} {set : β → Draft → Draft}
    (h : ∀ b d e, R d e → R (set b d) (set b e)) (value? : Option α) (meaning : α → Option β)
    (wrong : α → SettingsError) : Keeps R (of value? meaning wrong set) := by
  intro d e hde
  rw [apply_of, apply_of]
  cases value?.bind meaning with
  | none => exact hde
  | some b => exact h b d e hde

theorem keeps_always {α : Type} {R : Draft → Draft → Prop} {set : α → Draft → Draft}
    (h : ∀ a d e, R d e → R (set a d) (set a e)) (value? : Option α) :
    Keeps R (always value? set) := by
  intro d e hde
  cases value? with
  | none => exact hde
  | some a => exact h a d e hde

/- A change that fails leaves both drafts as they are, so the relation also holds where the steps
stop. -/
theorem applySteps_related {R : Draft → Draft → Prop} {changes : List Change}
    (h : ∀ c ∈ changes, Keeps R c) {d e : Draft} (hde : R d e) :
    R (applySteps (changes.map step) d).1 (applySteps (changes.map step) e).1 := by
  induction changes generalizing d e with
  | nil => exact hde
  | cons c rest ih =>
    have hrest : ∀ c ∈ rest, Keeps R c := fun c hc => h c (List.mem_cons_of_mem _ hc)
    have hfirst := h c (List.mem_cons_self ..) d e hde
    cases c with
    | ok change => exact ih hrest hfirst
    | error wrong => exact hde

end Change

/-! ### Tables of colors that read alike -/

theorem Color.ofName?_name (c : Color) : ofName? c.name = some c := by
  obtain ⟨base, bright⟩ := c
  cases base <;> cases bright <;> decide

theorem Color.ofName?_baseName (b : BaseColor) : ofName? b.name = some ⟨b, false⟩ :=
  ofName?_name ⟨b, false⟩

theorem PaletteEntry.mem_all (e : PaletteEntry) : e ∈ all := by
  cases e <;> decide

namespace Palette

theorem eq_of_color {p q : Palette} (h : ∀ e, p.color e = q.color e) : p = q := by
  obtain ⟨info, warn, error, emphasis, progressId, progressStatus, progressBar⟩ := p
  have hemphasis : emphasis = q.emphasis := congrArg Color.base (h .emphasis)
  have hinfo : info = q.info := h .info
  have hwarn : warn = q.warn := h .warn
  have herror : error = q.error := h .error
  have hid : progressId = q.progressId := h .progressId
  have hstatus : progressStatus = q.progressStatus := h .progressStatus
  have hbar : progressBar = q.progressBar := h .progressBar
  rw [hemphasis, hinfo, hwarn, herror, hid, hstatus, hbar]

/-- Two tables that give every entry the same color, and hold the same pairs that do not fit. -/
structure ReadsAlike (t u : Entries String String) : Prop where
  left : t.keys.Nodup
  right : u.keys.Nodup
  color : ∀ e, (named? t e).getD (({} : Palette).color e) =
    (named? u e).getD (({} : Palette).color e)
  misfits : ∀ name color, ¬Fits (name, color) →
    (t.get? name = some color ↔ u.get? name = some color)

theorem named?_put (t : Entries String String) (name color : String) (e : PaletteEntry) :
    named? (t.put name color) e =
      if name = e.name then (Color.ofName? color).map e.fitted else named? t e := by
  unfold named?
  rw [Entries.get?_put]
  by_cases h : name = e.name
  · simp only [h, if_true, Option.bind_some]
  · simp only [h, if_false]

namespace ReadsAlike

variable {t u : Entries String String}

theorem put (h : ReadsAlike t u) (name color : String) :
    ReadsAlike (t.put name color) (u.put name color) where
  left := Entries.nodup_put h.left name color
  right := Entries.nodup_put h.right name color
  color e := by
    rw [named?_put, named?_put]
    split
    · rfl
    · exact h.color e
  misfits other misfit hmisfit := by
    rw [Entries.get?_put, Entries.get?_put]
    split
    · rfl
    · exact h.misfits other misfit hmisfit

theorem putAll (h : ReadsAlike t u) (more : Entries String String) :
    ReadsAlike (t.putAll more) (u.putAll more) := by
  induction more generalizing t u with
  | nil => exact h
  | cons p rest ih => exact ih (h.put p.1 p.2)

theorem symm (h : ReadsAlike t u) : ReadsAlike u t :=
  ⟨h.right, h.left, fun e => (h.color e).symm, fun name color hn => (h.misfits name color hn).symm⟩

theorem fits (h : ReadsAlike t u) (ht : ∀ pair ∈ t, Fits pair) : ∀ pair ∈ u, Fits pair := by
  rintro ⟨name, color⟩ hmem
  by_contra hmisfit
  have hget : u.get? name = some color := (Entries.mem_iff_get? h.right).mp hmem
  have hback : t.get? name = some color := (h.misfits name color hmisfit).mpr hget
  exact hmisfit (ht _ ((Entries.mem_iff_get? h.left).mpr hback))

end ReadsAlike

/-! ### Writing a palette -/

theorem keys_toEntries (p : Palette) : p.toEntries.keys = PaletteEntry.all.map PaletteEntry.name :=
  rfl

theorem nodup_toEntries (p : Palette) : p.toEntries.keys.Nodup := by
  rw [keys_toEntries]
  decide

theorem get?_toEntries (p : Palette) (e : PaletteEntry) :
    p.toEntries.get? e.name = some (p.colorName e) := by
  refine (Entries.mem_iff_get? p.nodup_toEntries).mp ?_
  exact List.mem_map.mpr ⟨e, e.mem_all, rfl⟩

theorem ofName?_colorName (p : Palette) (e : PaletteEntry) :
    (Color.ofName? (p.colorName e)).map e.fitted = some (p.color e) := by
  cases e <;> simp only [colorName, color, Color.ofName?_name, Color.ofName?_baseName,
    Option.map_some, PaletteEntry.fitted]

theorem named?_toEntries (p : Palette) (e : PaletteEntry) :
    named? p.toEntries e = some (p.color e) := by
  unfold named?
  rw [get?_toEntries, Option.bind_some, ofName?_colorName]

theorem fits_toEntries (p : Palette) : ∀ pair ∈ p.toEntries, Fits pair := by
  intro pair hpair
  obtain ⟨e, -, rfl⟩ := List.mem_map.mp hpair
  refine ⟨Option.isSome_of_eq_some (PaletteEntry.ofName?_name e), ?_⟩
  obtain ⟨c, hc, -⟩ := Option.map_eq_some_iff.mp (ofName?_colorName p e)
  exact Option.isSome_of_eq_some hc

end Palette

/-! ### Drafts that match -/

/-- Two drafts that differ in how they name their colors, if in anything. -/
structure Draft.Matches (d e : Draft) : Prop where
  lead : d.lead = e.lead
  colorMode : d.colorMode = e.colorMode
  verbose : d.verbose = e.verbose
  batchMode : d.batchMode = e.batchMode
  colors : Palette.ReadsAlike d.colors e.colors

namespace Draft

theorem palette_of_freeze {d : Draft} {s : Settings} (hkeys : d.colors.keys.Nodup)
    (h : d.freeze = .ok s) :
    (∀ pair ∈ d.colors, Palette.Fits pair) ∧ s = { d with palette := s.palette } ∧
      ∀ e, s.palette.color e = (Palette.named? d.colors e).getD (({} : Palette).color e) := by
  have hfits : ∀ pair ∈ d.colors, Palette.Fits pair := by
    by_contra hnot
    obtain ⟨wrong, hwrong⟩ := freeze_of_not_fits hnot
    rw [h] at hwrong
    cases hwrong
  obtain ⟨palette, hfreeze, hcolor⟩ := freeze_of_fits hkeys hfits
  rw [h] at hfreeze
  cases hfreeze
  exact ⟨hfits, rfl, hcolor⟩

namespace Matches

variable {d e : Draft}

theorem symm (h : d.Matches e) : e.Matches d :=
  ⟨h.lead.symm, h.colorMode.symm, h.verbose.symm, h.batchMode.symm, h.colors.symm⟩

theorem freeze_of_ok (h : d.Matches e) {s : Settings} (hs : d.freeze = .ok s) :
    e.freeze = .ok s := by
  obtain ⟨hfits, hsettings, hcolor⟩ := palette_of_freeze h.colors.left hs
  obtain ⟨palette, hfreeze, hother⟩ := freeze_of_fits h.colors.right (h.colors.fits hfits)
  have hpalette : palette = s.palette := Palette.eq_of_color fun entry => by
    rw [hother, hcolor, h.colors.color]
  rw [hfreeze, hsettings, hpalette, h.lead, h.colorMode, h.verbose, h.batchMode]

theorem freeze_iff (h : d.Matches e) (s : Settings) : d.freeze = .ok s ↔ e.freeze = .ok s :=
  ⟨h.freeze_of_ok, h.symm.freeze_of_ok⟩

/- The error of a source does not depend on the draft, and each of its changes sets the same in
both drafts. -/
theorem take (h : d.Matches e) (source : Source) :
    (d.take source).2 = (e.take source).2 ∧ (d.take source).1.Matches (e.take source).1 := by
  cases source with
  | table name t =>
    show (applySteps (tableSteps name t) d).2 = (applySteps (tableSteps name t) e).2 ∧
      Matches (applySteps (tableSteps name t) d).1 (applySteps (tableSteps name t) e).1
    rw [SettingsTable.tableSteps_eq, Change.applySteps_error, Change.applySteps_error]
    refine ⟨rfl, Change.applySteps_related ?_ h⟩
    simp only [SettingsTable.changes, List.forall_mem_cons, List.not_mem_nil, false_imp_iff,
      implies_true, and_true]
    refine ⟨Change.keeps_of ?_ _ _ _, Change.keeps_of ?_ _ _ _, Change.keeps_of ?_ _ _ _,
      Change.keeps_of ?_ _ _ _, Change.keeps_of ?_ _ _ _⟩
    · exact fun _ _ _ h => { h with lead := rfl }
    · exact fun _ _ _ h => { h with colorMode := rfl }
    · exact fun _ _ _ h => { h with verbose := rfl }
    · exact fun _ _ _ h => { h with batchMode := rfl }
    · exact fun more _ _ h => { h with colors := h.colors.putAll more }
  | environment env =>
    show (applySteps (environmentSteps env) d).2 = (applySteps (environmentSteps env) e).2 ∧
      Matches (applySteps (environmentSteps env) d).1 (applySteps (environmentSteps env) e).1
    rw [Environment.environmentSteps_eq, Change.applySteps_error, Change.applySteps_error]
    refine ⟨rfl, Change.applySteps_related ?_ h⟩
    simp only [Environment.changes, List.forall_mem_cons, List.not_mem_nil, false_imp_iff,
      implies_true, and_true]
    refine ⟨Change.keeps_always ?_ _, Change.keeps_of ?_ _ _ _, Change.keeps_always ?_ _,
      Change.keeps_of ?_ _ _ _⟩
    · exact fun _ _ _ h => { h with lead := rfl }
    · exact fun _ _ _ h => { h with colorMode := rfl }
    · exact fun _ _ _ h => { h with verbose := rfl }
    · exact fun _ _ _ h => { h with batchMode := rfl }

theorem takeAll (h : d.Matches e) (sources : List Source) :
    (d.takeAll sources).Matches (e.takeAll sources) := by
  induction sources generalizing d e with
  | nil => exact h
  | cons source rest ih => exact ih (h.take source).2

end Matches

/-- The errors with which sources, applied in turn, are refused. -/
def refusals (d : Draft) : List Source → List (Option SettingsError)
  | [] => []
  | source :: rest => (d.take source).2 :: (d.take source).1.refusals rest

theorem Matches.refusals {d e : Draft} (h : d.Matches e) (sources : List Source) :
    d.refusals sources = e.refusals sources := by
  induction sources generalizing d e with
  | nil => rfl
  | cons source rest ih =>
    obtain ⟨herror, hnext⟩ := h.take source
    simp only [Draft.refusals, herror, ih hnext]

theorem Matches.refl {d : Draft} (h : d.colors.keys.Nodup) : d.Matches d :=
  ⟨rfl, rfl, rfl, rfl, h, h, fun _ => rfl, fun _ _ _ => Iff.rfl⟩

theorem nodup_takeAll (sources : List Source) :
    (({} : Draft).takeAll sources).colors.keys.Nodup :=
  ((Matches.refl (d := {}) List.nodup_nil).takeAll sources).colors.left

/- Both tables fit throughout, so there are no misfits to compare. -/
theorem matches_thaw {d : Draft} {s : Settings} (hkeys : d.colors.keys.Nodup)
    (h : d.freeze = .ok s) : d.Matches s.thaw := by
  obtain ⟨hfits, hsettings, hcolor⟩ := palette_of_freeze hkeys h
  have hnever : ∀ {t : Entries String String}, t.keys.Nodup → (∀ pair ∈ t, Palette.Fits pair) →
      ∀ name color, ¬Palette.Fits (name, color) → t.get? name ≠ some color :=
    fun ht hall name color hmisfit hget => hmisfit (hall _ ((Entries.mem_iff_get? ht).mpr hget))
  have hthawed := Palette.nodup_toEntries s.palette
  rw [hsettings]
  refine ⟨rfl, rfl, rfl, rfl, hkeys, hthawed, fun entry => ?_, fun name color hmisfit => ?_⟩
  · show _ = (Palette.named? s.palette.toEntries entry).getD _
    rw [Palette.named?_toEntries, ← hcolor]
    rfl
  · exact iff_of_false (hnever hkeys hfits name color hmisfit)
      (hnever hthawed s.palette.fits_toEntries name color hmisfit)

end Draft

/-- Settings and the draft from which they were frozen. Freezing the draft that is made of them
gives them back. From there on the two drafts refuse the same sources with the same errors, and
after any sources they freeze to the same settings or both to none. -/
theorem Settings.thawed_as_original (before after : List Source) (s : Settings)
    (h : (({} : Draft).takeAll before).freeze = .ok s) :
    s.thaw.freeze = .ok s ∧
    s.thaw.refusals after = (({} : Draft).takeAll before).refusals after ∧
    ∀ later, (s.thaw.takeAll after).freeze = .ok later ↔
      ((({} : Draft).takeAll before).takeAll after).freeze = .ok later := by
  have hmatches := Draft.matches_thaw (Draft.nodup_takeAll before) h
  refine ⟨hmatches.freeze_of_ok h, (hmatches.refusals after).symm, fun later => ?_⟩
  exact ((hmatches.takeAll after).freeze_iff later).symm

/- The first table is refused at its second setting. Later an environment is refused behind its
first variable, and a table names a color that keeps both drafts from being frozen. -/
theorem Settings.thawed_as_original_refused :
    (({} : Draft).takeAll
        [.table "a" [("verbose", .str "api"), ("batch_mode", .int 3)],
          .table "b" [("colors", .table [("warn", .str " Bright-Cyan ")])]]).freeze =
      .ok { verbose := some "api", palette := { warn := ⟨.cyan, true⟩ } } ∧
    (thaw { verbose := some "api", palette := { warn := ⟨.cyan, true⟩ } }).freeze =
      .ok { verbose := some "api", palette := { warn := ⟨.cyan, true⟩ } } ∧
    (thaw { verbose := some "api", palette := { warn := ⟨.cyan, true⟩ } }).refusals
        [.environment [("EMPHLOG_PREFIX", "E> "), ("EMPHLOG_COLOR", "maybe")],
          .table "c" [("colors", .table [("info", .str "pink")])]] =
      [some (.unknownColorMode "EMPHLOG_COLOR" "maybe"), none] ∧
    ∀ later, ((thaw { verbose := some "api", palette := { warn := ⟨.cyan, true⟩ } }).takeAll
        [.environment [("EMPHLOG_PREFIX", "E> "), ("EMPHLOG_COLOR", "maybe")],
          .table "c" [("colors", .table [("info", .str "pink")])]]).freeze ≠ .ok later := by
  have hfreeze : (({} : Draft).takeAll
      [.table "a" [("verbose", .str "api"), ("batch_mode", .int 3)],
        .table "b" [("colors", .table [("warn", .str " Bright-Cyan ")])]]).freeze =
      .ok { verbose := some "api", palette := { warn := ⟨.cyan, true⟩ } } := by decide +kernel
  obtain ⟨hthawed, hrefusals, hlater⟩ := thawed_as_original _
    [.environment [("EMPHLOG_PREFIX", "E> "), ("EMPHLOG_COLOR", "maybe")],
      .table "c" [("colors", .table [("info", .str "pink")])]] _ hfreeze
  have hpink : ((({} : Draft).takeAll
      [.table "a" [("verbose", .str "api"), ("batch_mode", .int 3)],
        .table "b" [("colors", .table [("warn", .str " Bright-Cyan ")])]]).takeAll
      [.environment [("EMPHLOG_PREFIX", "E> "), ("EMPHLOG_COLOR", "maybe")],
        .table "c" [("colors", .table [("info", .str "pink")])]]).freeze =
      .error (.badPalette (.unknownColor "pink")) := by decide +kernel
  refine ⟨hfreeze, hthawed, hrefusals.trans (by decide +kernel), fun later hok => ?_⟩
  have hfrozen := (hlater later).mp hok
  rw [hpink] at hfrozen
  cases hfrozen

end MarkupLog
