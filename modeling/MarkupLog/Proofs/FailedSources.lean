import Mathlib.Data.List.Basic
import MarkupLog.Proofs.TableMerges

/-!
# Sources with a wrong value

A source is applied setting by setting, in an order that does not depend on how its pairs are
ordered. A wrong value ends this at its setting: the draft is then the one that the part of the
source in front of that setting makes, and the settings from there on are untouched.
-/

namespace MarkupLog

theorem Entries.get?_perm {κ α : Type} [DecidableEq κ] {t u : Entries κ α} (h : t.keys.Nodup)
    (hperm : t.Perm u) (key : κ) : t.get? key = u.get? key := by
  have hkeys : u.keys.Nodup := (hperm.map Prod.fst).nodup_iff.mp h
  refine Option.ext fun value => ?_
  rw [← mem_iff_get? h, ← mem_iff_get? hkeys]
  exact hperm.mem_iff

/-! ### Settings -/

/-- What a source can set. -/
inductive Setting
  | lead
  | colorMode
  | verbose
  | batchMode
  | colors
  deriving Repr, DecidableEq

namespace Setting

/-- The key of a setting in a table. -/
def key : Setting → String
  | .lead => "prefix"
  | .colorMode => "color"
  | .verbose => "verbose"
  | .batchMode => "batch_mode"
  | .colors => "colors"

/-- The name of a setting in an environment, which has none for colors. -/
def envName? : Setting → Option String
  | .lead => some "EMPHLOG_PREFIX"
  | .colorMode => some "EMPHLOG_COLOR"
  | .verbose => some "EMPHLOG_VERBOSE"
  | .batchMode => some "EMPHLOG_BATCH_MODE"
  | .colors => none

/-- The place of a setting in the order in which they are taken. -/
def place : Setting → Nat
  | .lead => 0
  | .colorMode => 1
  | .verbose => 2
  | .batchMode => 3
  | .colors => 4

theorem key_injective : Function.Injective key := by
  intro a b
  cases a <;> cases b <;> decide

theorem envName?_inj {a b : Setting} {name : String} (ha : a.envName? = some name)
    (hb : b.envName? = some name) : a = b := by
  have h := ha.trans hb.symm
  revert h
  cases a <;> cases b <;> decide

/-- Two drafts have the same value for a setting. -/
def SameIn (d e : Draft) : Setting → Prop
  | .lead => d.lead = e.lead
  | .colorMode => d.colorMode = e.colorMode
  | .verbose => d.verbose = e.verbose
  | .batchMode => d.batchMode = e.batchMode
  | .colors => d.colors = e.colors

theorem SameIn.refl (d : Draft) (setting : Setting) : setting.SameIn d d := by
  cases setting <;> rfl

theorem SameIn.trans {d e f : Draft} {setting : Setting} (h : setting.SameIn d e)
    (h' : setting.SameIn e f) : setting.SameIn d f := by
  cases setting <;> exact Eq.trans h h'

end Setting

/-! ### Wrong values -/

namespace Source

/-- The order in which the settings of a source are taken. -/
def order : Source → List Setting
  | .table _ _ => [.lead, .colorMode, .verbose, .batchMode, .colors]
  | .environment _ => [.lead, .colorMode, .verbose, .batchMode]

/-- The source has a value for the setting that is wrong, and this is the error. -/
inductive Wrong : Source → Setting → SettingsError → Prop
  | lead {name t v} (h : t.get? "prefix" = some v) (hstr : ∀ s, v ≠ .str s) :
      Wrong (.table name t) .lead (.notString (keyPlace name "prefix"))
  | colorType {name t v} (h : t.get? "color" = some v) (hbool : ∀ b, v ≠ .bool b)
      (hstr : ∀ s, v ≠ .str s) :
      Wrong (.table name t) .colorMode (.notStringOrBoolean (keyPlace name "color"))
  | colorMode {name t s} (h : t.get? "color" = some (.str s))
      (hmode : ∀ mode : ColorMode, mode.name ≠ Text.lower (Text.trim s)) :
      Wrong (.table name t) .colorMode (.unknownColorMode (keyPlace name "color") s)
  | verbose {name t v} (h : t.get? "verbose" = some v) (hnone : v ≠ .none)
      (hbool : ∀ b, v ≠ .bool b) (hstr : ∀ s, v ≠ .str s)
      (hlist : ∀ names : List String, v ≠ .list (names.map .str)) :
      Wrong (.table name t) .verbose (.notVerbosity (keyPlace name "verbose"))
  | batchMode {name t v} (h : t.get? "batch_mode" = some v) (hbool : ∀ b, v ≠ .bool b) :
      Wrong (.table name t) .batchMode (.notBoolean (keyPlace name "batch_mode"))
  | colors {name t v} (h : t.get? "colors" = some v) (htable : ∀ colors, v ≠ .ofColors colors) :
      Wrong (.table name t) .colors (.notColorTable (name ++ ": " ++ colorsPlace))
  | envColorMode {env s} (h : env.get? "EMPHLOG_COLOR" = some s) (hs : s ≠ "")
      (hmode : ∀ mode : ColorMode, mode.name ≠ Text.lower (Text.trim s)) :
      Wrong (.environment env) .colorMode (.unknownColorMode "EMPHLOG_COLOR" s)
  | envBatchMode {env s} (h : env.get? "EMPHLOG_BATCH_MODE" = some s) (hs : s ≠ "")
      (hword : Text.lower (Text.trim s) ∉ trueWords ++ falseWords) :
      Wrong (.environment env) .batchMode (.unknownBoolean "EMPHLOG_BATCH_MODE" s)

/-- The part of a source that is about some settings. -/
def only (settings : List Setting) : Source → Source
  | .table name t => .table name (t.only (settings.map Setting.key))
  | .environment env =>
    .environment (env.filter fun p => p.1 ∈ settings.filterMap Setting.envName?)

/-- The same pairs, each key once, in any order. -/
inductive Reordered : Source → Source → Prop
  | table {name} {t u : SettingsTable} (hkeys : t.keys.Nodup) (h : t.Perm u) :
      Reordered (.table name t) (.table name u)
  | environment {env other : Environment} (hkeys : env.keys.Nodup) (h : env.Perm other) :
      Reordered (.environment env) (.environment other)

end Source

/-! ### Values without a meaning -/

theorem ColorMode.ofName?_eq_none_iff (s : String) :
    ofName? s = none ↔ ∀ mode : ColorMode, mode.name ≠ Text.lower (Text.trim s) := by
  unfold ofName? named?
  rw [List.find?_eq_none]
  constructor
  · intro h mode hname
    refine h mode ?_ (decide_eq_true hname)
    cases mode <;> decide
  · intro h mode _ hname
    exact h mode (of_decide_eq_true hname)

theorem boolean?_eq_none_iff (s : String) :
    boolean? s = none ↔ Text.lower (Text.trim s) ∉ trueWords ++ falseWords := by
  unfold boolean?
  rw [List.mem_append, not_or]
  by_cases htrue : Text.lower (Text.trim s) ∈ trueWords
  · simp [htrue]
  · by_cases hfalse : Text.lower (Text.trim s) ∈ falseWords
    · simp [htrue, hfalse]
    · simp [htrue, hfalse]

namespace Value

theorem lead?_eq_none_iff (v : Value) : v.lead? = Option.none ↔ ∀ s, v ≠ .str s := by
  cases v <;> simp [lead?]

theorem batchMode?_eq_none_iff (v : Value) : v.batchMode? = Option.none ↔ ∀ b, v ≠ .bool b := by
  cases v <;> simp [batchMode?]

theorem colors?_eq_none_iff (v : Value) :
    v.colors? = Option.none ↔ ∀ colors, v ≠ .ofColors colors := by
  rw [Option.eq_none_iff_forall_ne_some]
  exact forall_congr' fun colors => not_congr (colors?_eq_some_iff v colors)

theorem stringItems?_eq_some_iff (items : List Value) (names : List String) :
    stringItems? items = some names ↔ items = names.map .str := by
  induction items generalizing names with
  | nil => cases names <;> simp [stringItems?]
  | cons item rest ih =>
    cases item with
    | str s =>
      rw [stringItems?, Option.map_eq_some_iff]
      constructor
      · intro h
        obtain ⟨more, hmore, hnames⟩ := h
        rw [← hnames, List.map_cons, ← (ih more).mp hmore]
      · intro h
        cases names with
        | nil => cases h
        | cons name more =>
          obtain ⟨hfirst, hrest⟩ := List.cons.inj h
          cases hfirst
          exact ⟨more, (ih more).mpr hrest, rfl⟩
    | _ => cases names <;> simp [stringItems?]

theorem verbose?_eq_none_iff (v : Value) :
    v.verbose? = Option.none ↔ v ≠ .none ∧ (∀ b, v ≠ .bool b) ∧ (∀ s, v ≠ .str s) ∧
      ∀ names : List String, v ≠ .list (names.map .str) := by
  cases v with
  | list items =>
    rw [verbose?, Option.map_eq_none_iff, Option.eq_none_iff_forall_ne_some]
    simp [stringItems?_eq_some_iff]
  | _ => simp [verbose?]

end Value

/-! ### Changes -/

namespace Change

variable {α β : Type}

theorem of_eq_error_iff (value? : Option α) (meaning : α → Option β) (wrong : α → SettingsError)
    (set : β → Draft → Draft) (e : SettingsError) :
    of value? meaning wrong set = .error e ↔
      ∃ v, value? = some v ∧ meaning v = none ∧ wrong v = e := by
  cases value? with
  | none => simp [of]
  | some v => cases h : meaning v <;> simp [of, h]

/- By induction on the changes in front of the one that is an error. -/
theorem applySteps_of_error {before : List Change} (h : ∀ c ∈ before, error? c = none)
    (e : SettingsError) (after : List Change) (d : Draft) :
    applySteps ((before ++ .error e :: after).map step) d = (before.foldl apply d, some e) := by
  induction before generalizing d with
  | nil => rfl
  | cons c rest ih =>
    rw [List.forall_mem_cons] at h
    cases c with
    | ok change => exact ih h.2 (change d)
    | error other => exact nomatch h.1

theorem sameIn_of {setting : Setting} {set : β → Draft → Draft}
    (h : ∀ b d, setting.SameIn (set b d) d) (value? : Option α) (meaning : α → Option β)
    (wrong : α → SettingsError) (d : Draft) :
    setting.SameIn (apply d (of value? meaning wrong set)) d := by
  rw [apply_of]
  cases value?.bind meaning with
  | none => exact Setting.SameIn.refl d setting
  | some b => exact h b d

theorem sameIn_always {setting : Setting} {set : α → Draft → Draft}
    (h : ∀ a d, setting.SameIn (set a d) d) (value? : Option α) (d : Draft) :
    setting.SameIn (apply d (always value? set)) d := by
  cases value? with
  | none => exact Setting.SameIn.refl d setting
  | some a => exact h a d

end Change

theorem Environment.nonempty?_eq_some_iff (env : Environment) (name s : String) :
    env.nonempty? name = some s ↔ env.get? name = some s ∧ s ≠ "" := by
  rw [nonempty?, Option.filter_eq_some_iff, decide_eq_true_eq]

namespace Source

def changes : Source → List Change
  | .table name t => SettingsTable.changes name t
  | .environment env => env.changes

/-- What a setting of a source does to every draft. -/
def change (source : Source) (setting : Setting) : Change :=
  source.changes.getD setting.place (.ok id)

theorem take_eq (d : Draft) (source : Source) :
    d.take source = applySteps ((source.order.map source.change).map Change.step) d := by
  cases source with
  | table name t => exact congrArg (applySteps · d) (SettingsTable.tableSteps_eq name t)
  | environment env => exact congrArg (applySteps · d) env.environmentSteps_eq

/-! ### Which changes are errors -/

theorem wrong_of_table {name : String} {t : SettingsTable} {setting : Setting} {e : SettingsError}
    (h : (table name t).change setting = .error e) : (table name t).Wrong setting e := by
  cases setting <;>
    simp only [change, changes, SettingsTable.changes, Setting.place, List.getD_cons_zero,
      List.getD_cons_succ, Change.of_eq_error_iff] at h <;>
    obtain ⟨v, hv, hnone, rfl⟩ := h
  case lead => exact .lead hv ((Value.lead?_eq_none_iff v).mp hnone)
  case colorMode =>
    cases v with
    | str s => exact .colorMode hv ((ColorMode.ofName?_eq_none_iff s).mp hnone)
    | bool b => cases hnone
    | _ => exact .colorType hv (by simp) (by simp)
  case verbose =>
    obtain ⟨hnone, hbool, hstr, hlist⟩ := (Value.verbose?_eq_none_iff v).mp hnone
    exact .verbose hv hnone hbool hstr hlist
  case batchMode => exact .batchMode hv ((Value.batchMode?_eq_none_iff v).mp hnone)
  case colors => exact .colors hv ((Value.colors?_eq_none_iff v).mp hnone)

theorem wrong_of_environment {env : Environment} {setting : Setting} {e : SettingsError}
    (h : (environment env).change setting = .error e) : (environment env).Wrong setting e := by
  cases setting <;>
    simp only [change, changes, Environment.changes, Setting.place, List.getD_cons_zero,
      List.getD_cons_succ, List.getD_nil, Change.of_eq_error_iff, Change.always, reduceCtorEq] at h
  case colorMode =>
    obtain ⟨s, hs, hnone, rfl⟩ := h
    obtain ⟨hs, hne⟩ := (env.nonempty?_eq_some_iff _ s).mp hs
    exact .envColorMode hs hne ((ColorMode.ofName?_eq_none_iff s).mp hnone)
  case batchMode =>
    obtain ⟨s, hs, hnone, rfl⟩ := h
    obtain ⟨hs, hne⟩ := (env.nonempty?_eq_some_iff _ s).mp hs
    exact .envBatchMode hs hne ((boolean?_eq_none_iff s).mp hnone)

theorem change_of_wrong {source : Source} {setting : Setting} {e : SettingsError}
    (h : source.Wrong setting e) : source.change setting = .error e := by
  cases h <;>
    simp only [change, changes, SettingsTable.changes, Environment.changes, Setting.place,
      List.getD_cons_zero, List.getD_cons_succ, Change.of_eq_error_iff]
  case lead hv hstr => exact ⟨_, hv, (Value.lead?_eq_none_iff _).mpr hstr, trivial⟩
  case colorType v hv hbool hstr =>
    refine ⟨v, hv, ?_, ?_⟩
    · cases v with
      | str s => exact absurd rfl (hstr s)
      | bool b => exact absurd rfl (hbool b)
      | _ => rfl
    · cases v with
      | str s => exact absurd rfl (hstr s)
      | _ => rfl
  case colorMode hv hmode => exact ⟨_, hv, (ColorMode.ofName?_eq_none_iff _).mpr hmode, rfl⟩
  case verbose hv hnone hbool hstr hlist =>
    exact ⟨_, hv, (Value.verbose?_eq_none_iff _).mpr ⟨hnone, hbool, hstr, hlist⟩, trivial⟩
  case batchMode hv hbool => exact ⟨_, hv, (Value.batchMode?_eq_none_iff _).mpr hbool, trivial⟩
  case colors hv htable => exact ⟨_, hv, (Value.colors?_eq_none_iff _).mpr htable, trivial⟩
  case envColorMode hv hs hmode =>
    have hvalue := (Environment.nonempty?_eq_some_iff ..).mpr ⟨hv, hs⟩
    exact ⟨_, hvalue, (ColorMode.ofName?_eq_none_iff _).mpr hmode, rfl⟩
  case envBatchMode hv hs hword =>
    have hvalue := (Environment.nonempty?_eq_some_iff ..).mpr ⟨hv, hs⟩
    exact ⟨_, hvalue, (boolean?_eq_none_iff _).mpr hword, rfl⟩

theorem change_eq_error_iff (source : Source) (setting : Setting) (e : SettingsError) :
    source.change setting = .error e ↔ source.Wrong setting e := by
  refine ⟨fun h => ?_, change_of_wrong⟩
  cases source with
  | table name t => exact wrong_of_table h
  | environment env => exact wrong_of_environment h

/-! ### One setting at a time -/

/- The changes of a source set one setting each. -/
theorem sameIn_change (d : Draft) (source : Source) {setting other : Setting}
    (h : setting ≠ other) : other.SameIn (Change.apply d (source.change setting)) d := by
  cases source with
  | table name t =>
    cases setting <;>
      simp only [change, changes, SettingsTable.changes, Setting.place, List.getD_cons_zero,
        List.getD_cons_succ] <;>
      refine Change.sameIn_of (fun b d => ?_) _ _ _ d <;> cases other <;> trivial
  | environment env =>
    cases setting <;>
      simp only [change, changes, Environment.changes, Setting.place, List.getD_cons_zero,
        List.getD_cons_succ, List.getD_nil]
    case lead | verbose => refine Change.sameIn_always (fun b d => ?_) _ d; cases other <;> trivial
    case colorMode | batchMode =>
      refine Change.sameIn_of (fun b d => ?_) _ _ _ d
      cases other <;> trivial
    case colors => exact Setting.SameIn.refl d other

theorem change_table_congr (name : String) {t u : SettingsTable} {setting : Setting}
    (h : t.get? setting.key = u.get? setting.key) :
    (table name t).change setting = (table name u).change setting := by
  cases setting <;>
    simp only [change, changes, SettingsTable.changes, Setting.place, List.getD_cons_zero,
      List.getD_cons_succ] <;>
    exact congrArg (Change.of · _ _ _) h

theorem change_environment_congr {env other : Environment} {setting : Setting}
    (h : ∀ name, setting.envName? = some name → env.get? name = other.get? name) :
    (environment env).change setting = (environment other).change setting := by
  cases setting <;>
    simp only [change, changes, Environment.changes, Setting.place, List.getD_cons_zero,
      List.getD_cons_succ, List.getD_nil]
  case lead | verbose => rw [h _ rfl]
  case colorMode | batchMode => rw [Environment.nonempty?, h _ rfl, ← Environment.nonempty?]

theorem change_only (source : Source) (settings : List Setting) (setting : Setting) :
    (source.only settings).change setting =
      if setting ∈ settings then source.change setting else .ok id := by
  cases source with
  | table name t =>
    have hkey := List.mem_map_of_injective Setting.key_injective (a := setting) (l := settings)
    by_cases hmem : setting ∈ settings
    · rw [if_pos hmem]
      refine change_table_congr name ?_
      rw [SettingsTable.get?_only, if_pos (hkey.mpr hmem)]
    · rw [if_neg hmem]
      have hempty : (table name []).change setting = .ok id := by cases setting <;> rfl
      rw [← hempty]
      refine change_table_congr name ?_
      rw [SettingsTable.get?_only, if_neg (mt hkey.mp hmem)]
      rfl
  | environment env =>
    by_cases hmem : setting ∈ settings
    · rw [if_pos hmem]
      refine change_environment_congr fun name hname => ?_
      have hnames : name ∈ settings.filterMap Setting.envName? :=
        List.mem_filterMap.mpr ⟨setting, hmem, hname⟩
      rw [Entries.get?_filter, if_pos hnames]
    · rw [if_neg hmem]
      have hempty : (environment []).change setting = .ok id := by cases setting <;> rfl
      rw [← hempty]
      refine change_environment_congr fun name hname => ?_
      have hnames : name ∉ settings.filterMap Setting.envName? := by
        intro h
        obtain ⟨other, hother, hsame⟩ := List.mem_filterMap.mp h
        exact hmem (Setting.envName?_inj hname hsame ▸ hother)
      rw [Entries.get?_filter, if_neg hnames]
      rfl

/-! ### Parts of a source -/

theorem nodup_order (source : Source) : source.order.Nodup := by
  cases source <;> simp [order]

theorem colors_not_mem_order (source : Source) : Setting.colors ∉ source.order.dropLast := by
  cases source <;> simp [order]

theorem Wrong.mem_order {source : Source} {setting : Setting} {e : SettingsError}
    (h : source.Wrong setting e) : setting ∈ source.order := by
  cases h <;> simp [order]

theorem not_wrong_iff (source : Source) (settings : List Setting) :
    (∀ setting ∈ settings, ∀ e, ¬source.Wrong setting e) ↔
      ∀ c ∈ settings.map source.change, Change.error? c = none := by
  rw [List.forall_mem_map]
  refine forall₂_congr fun setting _ => ?_
  simp only [← change_eq_error_iff]
  cases source.change setting with
  | ok change => simp [Change.error?]
  | error e => simp [Change.error?]

theorem foldl_ok_id (settings : List Setting) (d : Draft) :
    (settings.map fun _ => Except.ok id).foldl Change.apply d = d := by
  induction settings with
  | nil => rfl
  | cons setting rest ih => exact ih

theorem map_change_only (source : Source) {before behind : List Setting}
    (horder : source.order = before ++ behind) :
    source.order.map (source.only before).change =
      before.map source.change ++ behind.map fun _ => Except.ok id := by
  have hnodup := source.nodup_order
  rw [horder] at hnodup ⊢
  have happart := (List.nodup_append.mp hnodup).2.2
  have hbefore : before.map (source.only before).change = before.map source.change := by
    refine List.map_congr_left fun setting hmem => ?_
    rw [change_only, if_pos hmem]
  have hbehind : behind.map (source.only before).change = behind.map fun _ => Except.ok id := by
    refine List.map_congr_left fun setting hmem => ?_
    rw [change_only, if_neg fun h => happart setting h setting hmem rfl]
  rw [List.map_append, hbefore, hbehind]

theorem order_only (source : Source) (settings : List Setting) :
    (source.only settings).order = source.order := by
  cases source <;> rfl

theorem take_only (d : Draft) (source : Source) {before behind : List Setting}
    (horder : source.order = before ++ behind)
    (hvalid : ∀ c ∈ before.map source.change, Change.error? c = none) :
    d.take (source.only before) = ((before.map source.change).foldl Change.apply d, none) := by
  have hchanges := source.map_change_only horder
  have hall : ∀ c ∈ before.map source.change ++ behind.map fun _ => Except.ok id,
      Change.error? c = none := by
    intro c hc
    rcases List.mem_append.mp hc with hmem | hmem
    · exact hvalid c hmem
    · obtain ⟨-, -, rfl⟩ := List.mem_map.mp hmem
      rfl
  rw [take_eq, order_only, hchanges, Change.applySteps_of_valid d hall, List.foldl_append,
    foldl_ok_id]

theorem take_of_wrong (d : Draft) (source : Source) {before after : List Setting}
    {setting : Setting} {e : SettingsError} (horder : source.order = before ++ setting :: after)
    (hvalid : ∀ c ∈ before.map source.change, Change.error? c = none)
    (hwrong : source.Wrong setting e) :
    d.take source = ((before.map source.change).foldl Change.apply d, some e) := by
  have hchange := change_of_wrong hwrong
  rw [take_eq, horder, List.map_append, List.map_cons, hchange]
  exact Change.applySteps_of_error hvalid e (after.map source.change) d

/- By induction on the settings that are taken, none of which is the one that is looked at. -/
theorem sameIn_foldl (source : Source) {other : Setting} {settings : List Setting}
    (h : other ∉ settings) (d : Draft) :
    other.SameIn ((settings.map source.change).foldl Change.apply d) d := by
  induction settings generalizing d with
  | nil => exact Setting.SameIn.refl d other
  | cons setting rest ih =>
    obtain ⟨hfirst, hrest⟩ := not_or.mp (mt List.mem_cons.mpr h)
    have hchange := sameIn_change d source (Ne.symm hfirst)
    exact (ih hrest (Change.apply d (source.change setting))).trans hchange

/-! ### The order of the pairs -/

theorem Reordered.take {source other : Source} (h : source.Reordered other) (d : Draft) :
    d.take other = d.take source := by
  have hchange : ∀ setting, source.change setting = other.change setting := by
    intro setting
    cases h with
    | table hkeys hperm => exact change_table_congr _ (Entries.get?_perm hkeys hperm _)
    | environment hkeys hperm =>
      exact change_environment_congr fun name _ => Entries.get?_perm hkeys hperm name
  have horder : source.order = other.order := by cases h <;> rfl
  rw [take_eq, take_eq, ← horder, List.map_congr_left fun setting _ => (hchange setting).symm]

end Source

theorem Draft.take_error_iff (d : Draft) (source : Source) :
    (∃ e, (d.take source).2 = some e) ↔ ∃ setting e, source.Wrong setting e := by
  rw [Source.take_eq, Change.applySteps_error]
  constructor
  · rintro ⟨e, he⟩
    obtain ⟨c, hc, herror⟩ := List.exists_of_findSome?_eq_some he
    obtain ⟨setting, -, rfl⟩ := List.mem_map.mp hc
    cases hchange : source.change setting with
    | ok change => rw [hchange] at herror; cases herror
    | error other => exact ⟨setting, other, (source.change_eq_error_iff setting other).mp hchange⟩
  · rintro ⟨setting, e, hwrong⟩
    have hmem : Except.error e ∈ source.order.map source.change :=
      List.mem_map.mpr ⟨setting, hwrong.mem_order, Source.change_of_wrong hwrong⟩
    refine Option.ne_none_iff_exists'.mp fun hnone => ?_
    exact nomatch List.findSome?_eq_none_iff.mp hnone _ hmem

/-- A source is refused exactly when it has a wrong value. It then stops at the first setting, in
the order of the settings, that has one: the error is about that value, the draft is what the part
of the source in front of that setting makes without an error, and that setting and those behind it
are as they were; so are the colors in any case. The order of the pairs does not matter. -/
theorem Draft.take_stops_at_first_wrong (d : Draft) (source : Source) :
    ((∃ e, (d.take source).2 = some e) ↔ ∃ setting e, source.Wrong setting e) ∧
    (∀ before setting after e, source.order = before ++ setting :: after →
      (∀ earlier ∈ before, ∀ e, ¬source.Wrong earlier e) → source.Wrong setting e →
        (d.take source).2 = some e ∧
        d.take (source.only before) = ((d.take source).1, none) ∧
        (∀ later ∈ setting :: after, later.SameIn (d.take source).1 d) ∧
        (d.take source).1.colors = d.colors) ∧
    ∀ other, source.Reordered other → d.take other = d.take source := by
  refine ⟨d.take_error_iff source, ?_, fun other hother => hother.take d⟩
  intro before setting after e horder hbefore hwrong
  have hvalid := (source.not_wrong_iff before).mp hbefore
  have htake := Source.take_of_wrong d source horder hvalid hwrong
  have honly := Source.take_only d source horder hvalid
  have hnodup := source.nodup_order
  have hcolors := source.colors_not_mem_order
  rw [horder] at hnodup hcolors
  rw [htake]
  refine ⟨rfl, honly, fun later hlater => ?_, ?_⟩
  · have happart := (List.nodup_append.mp hnodup).2.2
    exact source.sameIn_foldl (fun h => happart later h later hlater rfl) d
  · rw [List.dropLast_append_of_ne_nil (List.cons_ne_nil setting after)] at hcolors
    exact source.sameIn_foldl (fun h => hcolors (List.mem_append_left _ h)) d

/- The table has two wrong values, and the first one is about color, in whatever order the pairs
stand. The variables set what they can up to the last one. -/
theorem Draft.take_stops_at_first_wrong_color :
    let d : Draft := { colors := [("warn", "red")] }
    let t : SettingsTable := [("colors", .table [("info", .str "red")]), ("batch_mode", .int 3),
      ("prefix", .str "a"), ("color", .str "maybe")]
    let env : Environment := [("EMPHLOG_BATCH_MODE", "perhaps"), ("EMPHLOG_VERBOSE", "api"),
      ("EMPHLOG_COLOR", " Never ")]
    (∀ earlier ∈ [Setting.lead], ∀ e, ¬(Source.table "t" t).Wrong earlier e) ∧
      (Source.table "t" t).Wrong .colorMode (.unknownColorMode "t: 'color'" "maybe") ∧
      (Source.table "t" t).Reordered (.table "t" t.reverse) ∧
      d.take (.table "t" t.reverse) =
        ({ d with lead := "a" }, some (.unknownColorMode "t: 'color'" "maybe")) ∧
      d.take ((Source.table "t" t).only [.lead]) = ({ d with lead := "a" }, none) ∧
      (∀ earlier ∈ [Setting.lead, .colorMode, .verbose], ∀ e,
        ¬(Source.environment env).Wrong earlier e) ∧
      (Source.environment env).Wrong .batchMode (.unknownBoolean "EMPHLOG_BATCH_MODE" "perhaps") ∧
      (d.take (.environment env)).2 = some (.unknownBoolean "EMPHLOG_BATCH_MODE" "perhaps") ∧
      d.take ((Source.environment env).only [.lead, .colorMode, .verbose]) =
        ({ d with colorMode := .never, verbose := some "api" }, none) := by
  intro d t env
  have hlead : ∀ earlier ∈ [Setting.lead], ∀ e, ¬(Source.table "t" t).Wrong earlier e :=
    (Source.not_wrong_iff ..).mpr (by decide)
  have hcolor : (Source.table "t" t).Wrong .colorMode (.unknownColorMode "t: 'color'" "maybe") :=
    .colorMode rfl (by intro mode; cases mode <;> decide)
  have hreverse : (Source.table "t" t).Reordered (.table "t" t.reverse) :=
    .table (by decide) (List.reverse_perm t).symm
  have henv : ∀ earlier ∈ [Setting.lead, .colorMode, .verbose], ∀ e,
      ¬(Source.environment env).Wrong earlier e := (Source.not_wrong_iff ..).mpr (by decide)
  have hbatch : (Source.environment env).Wrong .batchMode
      (.unknownBoolean "EMPHLOG_BATCH_MODE" "perhaps") := .envBatchMode rfl (by decide) (by decide)
  obtain ⟨-, hstop, horder⟩ := d.take_stops_at_first_wrong (.table "t" t)
  obtain ⟨herror, honly, -, -⟩ := hstop [.lead] .colorMode [.verbose, .batchMode, .colors] _ rfl
    hlead hcolor
  obtain ⟨-, henvStop, -⟩ := d.take_stops_at_first_wrong (.environment env)
  obtain ⟨henvError, henvOnly, -, -⟩ := henvStop [.lead, .colorMode, .verbose] .batchMode [] _ rfl
    henv hbatch
  have hkept : (d.take (.table "t" t)).1 = { d with lead := "a" } := by decide
  have henvKept : (d.take (.environment env)).1 =
      { d with colorMode := .never, verbose := some "api" } := by decide
  rw [hkept] at honly
  rw [henvKept] at henvOnly
  exact ⟨hlead, hcolor, hreverse, (horder _ hreverse).trans (Prod.ext hkept herror), honly, henv,
    hbatch, henvError, henvOnly⟩

end MarkupLog
