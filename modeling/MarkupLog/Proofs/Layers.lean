import MarkupLog.Settings.Layers

/-!
# What layers set

Whether a step of a layer fails, and what it sets, does not depend on the draft. So a layer is
applied in full exactly when all its values are valid, and then it sets what they mean and leaves
everything else as it is.
-/

namespace MarkupLog

/-! ### Changes -/

/-- What a step does to every draft: it changes it in one way, or fails with one error. -/
abbrev Change := Except SettingsError (Draft → Draft)

namespace Change

def step (c : Change) : LayerStep := fun d =>
  match c with
  | .ok change => .ok (change d)
  | .error e => .error e

def error? : Change → Option SettingsError
  | .ok _ => none
  | .error e => some e

/-- The draft with the change, or the draft itself if there is an error instead. -/
def apply (d : Draft) : Change → Draft
  | .ok change => change d
  | .error _ => d

theorem applySteps_error (changes : List Change) (d : Draft) :
    (applySteps (changes.map step) d).2 = changes.findSome? error? := by
  induction changes generalizing d with
  | nil => rfl
  | cons c rest ih =>
    cases c with
    | ok change => exact ih (change d)
    | error e => rfl

theorem applySteps_draft {changes : List Change} (d : Draft)
    (h : ∀ c ∈ changes, error? c = none) :
    (applySteps (changes.map step) d).1 = changes.foldl apply d := by
  induction changes generalizing d with
  | nil => rfl
  | cons c rest ih =>
    cases c with
    | ok change => exact ih (change d) fun c hc => h c (List.mem_cons_of_mem _ hc)
    | error e => exact nomatch h _ (List.mem_cons_self ..)

theorem applySteps_of_valid {changes : List Change} (d : Draft)
    (h : ∀ c ∈ changes, error? c = none) :
    applySteps (changes.map step) d = (changes.foldl apply d, none) :=
  Prod.ext (applySteps_draft d h) <| by rw [applySteps_error, List.findSome?_eq_none_iff.mpr h]

/- By induction on the changes, whether or not one of them is an error. -/
theorem applySteps_keeps {α : Type} (part : Draft → α) {changes : List Change}
    (h : ∀ c ∈ changes, ∀ d, part (apply d c) = part d) (d : Draft) :
    part (applySteps (changes.map step) d).1 = part d := by
  induction changes generalizing d with
  | nil => rfl
  | cons c rest ih =>
    have hfirst := h c (List.mem_cons_self ..) d
    cases c with
    | ok change =>
      exact (ih (fun c hc => h c (List.mem_cons_of_mem _ hc)) (change d)).trans hfirst
    | error e => rfl

variable {α β : Type}

/-- The change by a value, if there is one: it sets what the value means. -/
def of (value? : Option α) (meaning : α → Option β) (wrong : α → SettingsError)
    (set : β → Draft → Draft) : Change :=
  match value? with
  | none => .ok id
  | some v =>
    match meaning v with
    | none => .error (wrong v)
    | some b => .ok (set b)

def always (value? : Option α) (set : α → Draft → Draft) : Change :=
  .ok fun d => (value?.map fun a => set a d).getD d

theorem error?_of (value? : Option α) (meaning : α → Option β) (wrong : α → SettingsError)
    (set : β → Draft → Draft) :
    error? (of value? meaning wrong set) = none ↔
      ∀ v, value? = some v → (meaning v).isSome := by
  cases value? with
  | none => exact iff_of_true rfl fun _ h => nomatch h
  | some v => cases h : meaning v <;> simp [of, error?, h]

@[simp] theorem error?_always (value? : Option α) (set : α → Draft → Draft) :
    error? (always value? set) = none := rfl

@[simp] theorem apply_always (d : Draft) (value? : Option α) (set : α → Draft → Draft) :
    apply d (always value? set) = (value?.map fun a => set a d).getD d := rfl

theorem apply_of (d : Draft) (value? : Option α) (meaning : α → Option β)
    (wrong : α → SettingsError) (set : β → Draft → Draft) :
    apply d (of value? meaning wrong set) =
      ((value?.bind meaning).map fun b => set b d).getD d := by
  cases value? with
  | none => rfl
  | some v => cases h : meaning v <;> simp [of, apply, h]

theorem apply_of_keeps {γ : Type} (part : Draft → γ) {set : β → Draft → Draft}
    (h : ∀ b d, part (set b d) = part d) (value? : Option α) (meaning : α → Option β)
    (wrong : α → SettingsError) (d : Draft) :
    part (apply d (of value? meaning wrong set)) = part d := by
  rw [apply_of]
  cases value?.bind meaning with
  | none => rfl
  | some b => exact h b d

theorem apply_always_keeps {γ : Type} (part : Draft → γ) {set : α → Draft → Draft}
    (h : ∀ a d, part (set a d) = part d) (value? : Option α) (d : Draft) :
    part (apply d (always value? set)) = part d := by
  cases value? with
  | none => rfl
  | some a => exact h a d

theorem stepFrom_eq_of {use : α → LayerStep} {meaning : α → Option β}
    {wrong : α → SettingsError} {set : β → Draft → Draft}
    (h : ∀ v, use v = step (of (some v) meaning wrong set)) (value? : Option α) :
    stepFrom value? use = step (of value? meaning wrong set) := by
  cases value? with
  | none => rfl
  | some v => exact h v

theorem stepFrom_eq_always (value? : Option α) (set : α → Draft → Draft) :
    stepFrom value? (fun a d => .ok (set a d)) = step (always value? set) := by
  cases value? <;> rfl

end Change

/-! ### The meaning of values -/

namespace Value

def lead? : Value → Option String
  | .str s => some s
  | _ => Option.none

def colorMode? : Value → Option ColorMode
  | .bool b => some (if b then .always else .never)
  | .str s => ColorMode.ofName? s
  | _ => Option.none

def listSpecification : List String → String
  | [] => "false"
  | names => Text.join "," names

def verbose? : Value → Option (Option String)
  | .none => some Option.none
  | .str s => some (some s)
  | .bool b => some (some (if b then "true" else "false"))
  | .list items => (stringItems? items).map fun names => some (listSpecification names)
  | _ => Option.none

def batchMode? : Value → Option Bool
  | .bool b => some b
  | _ => Option.none

def colors? : Value → Option (Entries String String)
  | .table entries => stringEntries? entries
  | _ => Option.none

end Value

def boolean? (s : String) : Option Bool :=
  if Text.lower (Text.trim s) ∈ trueWords then some true
  else if Text.lower (Text.trim s) ∈ falseWords then some false
  else none

theorem readColorMode_eq (place s : String) :
    (fun d : Draft => (readColorMode place s).map fun mode => { d with colorMode := mode }) =
      Change.step (.of (some s) ColorMode.ofName? (.unknownColorMode place)
        fun colorMode d => { d with colorMode }) := by
  funext d
  simp only [readColorMode, Change.of]
  cases ColorMode.ofName? s <;> rfl

theorem readBoolean_eq (place s : String) :
    (fun d : Draft => (readBoolean place s).map fun b => { d with batchMode := b }) =
      Change.step (.of (some s) boolean? (.unknownBoolean place)
        fun batchMode d => { d with batchMode }) := by
  funext d
  simp only [readBoolean, Change.of, boolean?]
  by_cases htrue : Text.lower (Text.trim s) ∈ trueWords
  · simp only [if_pos htrue]
    rfl
  · simp only [if_neg htrue]
    by_cases hfalse : Text.lower (Text.trim s) ∈ falseWords
    · simp only [if_pos hfalse]
      rfl
    · simp only [if_neg hfalse]
      rfl

/-! ### Layers -/

structure Layer where
  lead : Option String
  colorMode : Option ColorMode
  verbose : Option (Option String)
  batchMode : Option Bool
  colors : Entries String String

/-- The draft with a layer over it. -/
def Draft.under (d : Draft) (l : Layer) : Draft :=
  { lead := l.lead.getD d.lead
    colorMode := l.colorMode.getD d.colorMode
    verbose := l.verbose.getD d.verbose
    batchMode := l.batchMode.getD d.batchMode
    colors := d.colors.putAll l.colors }

/-! ### Tables -/

namespace SettingsTable

/-- A table in which each key of a setting that is there has a value for it. -/
structure Valid (t : SettingsTable) : Prop where
  lead : ∀ v, t.get? "prefix" = some v → v.lead?.isSome
  colorMode : ∀ v, t.get? "color" = some v → v.colorMode?.isSome
  verbose : ∀ v, t.get? "verbose" = some v → v.verbose?.isSome
  batchMode : ∀ v, t.get? "batch_mode" = some v → v.batchMode?.isSome
  colors : ∀ v, t.get? "colors" = some v → v.colors?.isSome

def layer (t : SettingsTable) : Layer :=
  { lead := (t.get? "prefix").bind Value.lead?
    colorMode := (t.get? "color").bind Value.colorMode?
    verbose := (t.get? "verbose").bind Value.verbose?
    batchMode := (t.get? "batch_mode").bind Value.batchMode?
    colors := ((t.get? "colors").bind Value.colors?).getD [] }

def wrongColorMode (source : String) : Value → SettingsError
  | .str s => .unknownColorMode (keyPlace source "color") s
  | _ => .notStringOrBoolean (keyPlace source "color")

def changes (source : String) (t : SettingsTable) : List Change :=
  [.of (t.get? "prefix") Value.lead? (fun _ => .notString (keyPlace source "prefix"))
      fun lead d => { d with lead },
    .of (t.get? "color") Value.colorMode? (wrongColorMode source)
      fun colorMode d => { d with colorMode },
    .of (t.get? "verbose") Value.verbose? (fun _ => .notVerbosity (keyPlace source "verbose"))
      fun verbose d => { d with verbose },
    .of (t.get? "batch_mode") Value.batchMode? (fun _ => .notBoolean (keyPlace source "batch_mode"))
      fun batchMode d => { d with batchMode },
    .of (t.get? "colors") Value.colors? (fun _ => .notColorTable (source ++ ": " ++ colorsPlace))
      fun colors d => { d with colors := d.colors.putAll colors }]

theorem useLead_eq (place : String) (v : Value) :
    useLead place v = Change.step (.of (some v) Value.lead? (fun _ => .notString place)
      fun lead d => { d with lead }) := by
  cases v <;> rfl

theorem useBatchMode_eq (place : String) (v : Value) :
    useBatchMode place v = Change.step (.of (some v) Value.batchMode? (fun _ => .notBoolean place)
      fun batchMode d => { d with batchMode }) := by
  cases v <;> rfl

theorem useColor_eq (source : String) (v : Value) :
    useColor (keyPlace source "color") v = Change.step (.of (some v) Value.colorMode?
      (wrongColorMode source) fun colorMode d => { d with colorMode }) := by
  funext d
  cases v with
  | str s =>
    simp only [useColor, readColorMode, Change.of, Value.colorMode?]
    cases ColorMode.ofName? s <;> rfl
  | _ => rfl

theorem useVerbose_eq (place : String) (v : Value) :
    useVerbose place v = Change.step (.of (some v) Value.verbose? (fun _ => .notVerbosity place)
      fun verbose d => { d with verbose }) := by
  funext d
  cases v with
  | list items =>
    simp only [useVerbose, readVerbose, Change.of, Value.verbose?]
    rcases stringItems? items with _ | _ | ⟨name, rest⟩ <;> rfl
  | _ => rfl

theorem useColors_eq (place : String) (v : Value) :
    useColors place v = Change.step (.of (some v) Value.colors? (fun _ => .notColorTable place)
      fun colors d => { d with colors := d.colors.putAll colors }) := by
  funext d
  cases v with
  | table entries =>
    simp only [useColors, Change.of, Value.colors?]
    cases stringEntries? entries <;> rfl
  | _ => rfl

theorem tableSteps_eq (source : String) (t : SettingsTable) :
    tableSteps source t = (changes source t).map Change.step := by
  simp only [tableSteps, changes, List.map_cons, List.map_nil,
    Change.stepFrom_eq_of (useLead_eq _), Change.stepFrom_eq_of (useColor_eq source),
    Change.stepFrom_eq_of (useVerbose_eq _), Change.stepFrom_eq_of (useBatchMode_eq _),
    Change.stepFrom_eq_of (useColors_eq _)]

theorem changes_valid_iff (source : String) (t : SettingsTable) :
    (∀ c ∈ changes source t, Change.error? c = none) ↔ t.Valid := by
  simp only [changes, List.forall_mem_cons, List.not_mem_nil, false_imp_iff, implies_true, and_true,
    Change.error?_of]
  constructor
  · rintro ⟨hlead, hcolor, hverbose, hbatch, hcolors⟩
    exact ⟨hlead, hcolor, hverbose, hbatch, hcolors⟩
  · intro h
    exact ⟨h.lead, h.colorMode, h.verbose, h.batchMode, h.colors⟩

theorem foldl_changes (source : String) (t : SettingsTable) (d : Draft) :
    (changes source t).foldl Change.apply d = d.under t.layer := by
  simp only [changes, List.foldl_cons, List.foldl_nil, Change.apply_of, Draft.under, layer]
  cases (t.get? "prefix").bind Value.lead? <;>
    cases (t.get? "color").bind Value.colorMode? <;>
    cases (t.get? "verbose").bind Value.verbose? <;>
    cases (t.get? "batch_mode").bind Value.batchMode? <;>
    cases (t.get? "colors").bind Value.colors? <;> rfl

end SettingsTable

theorem Draft.merge_error_iff (d : Draft) (source : String) (t : SettingsTable) :
    (d.merge source t).value.2 = none ↔ t.Valid := by
  rw [merge, SettingsTable.tableSteps_eq, Change.applySteps_error, List.findSome?_eq_none_iff,
    SettingsTable.changes_valid_iff]

theorem Draft.merge_of_valid (d : Draft) (source : String) {t : SettingsTable} (h : t.Valid) :
    (d.merge source t).value = (d.under t.layer, none) := by
  have hchanges := (SettingsTable.changes_valid_iff source t).mpr h
  rw [merge, SettingsTable.tableSteps_eq, Change.applySteps_of_valid d hchanges,
    SettingsTable.foldl_changes]

theorem Draft.merge_of_not_valid (d : Draft) (source : String) {t : SettingsTable}
    (h : ¬t.Valid) : ∃ kept e, (d.merge source t).value = (kept, some e) := by
  obtain ⟨e, he⟩ := Option.ne_none_iff_exists'.mp (mt (d.merge_error_iff source t).mp h)
  exact ⟨_, e, Prod.ext rfl he⟩

/-! ### Environments -/

namespace Environment

structure Valid (env : Environment) : Prop where
  colorMode : ∀ s, env.nonempty? "EMPHLOG_COLOR" = some s → (ColorMode.ofName? s).isSome
  batchMode : ∀ s, env.nonempty? "EMPHLOG_BATCH_MODE" = some s → (boolean? s).isSome

def layer (env : Environment) : Layer :=
  { lead := env.get? "EMPHLOG_PREFIX"
    colorMode := (env.nonempty? "EMPHLOG_COLOR").bind ColorMode.ofName?
    verbose := (env.get? "EMPHLOG_VERBOSE").map some
    batchMode := (env.nonempty? "EMPHLOG_BATCH_MODE").bind boolean?
    colors := [] }

def changes (env : Environment) : List Change :=
  [.always (env.get? "EMPHLOG_PREFIX") fun lead d => { d with lead },
    .of (env.nonempty? "EMPHLOG_COLOR") ColorMode.ofName? (.unknownColorMode "EMPHLOG_COLOR")
      fun colorMode d => { d with colorMode },
    .always (env.get? "EMPHLOG_VERBOSE") fun s d => { d with verbose := some s },
    .of (env.nonempty? "EMPHLOG_BATCH_MODE") boolean? (.unknownBoolean "EMPHLOG_BATCH_MODE")
      fun batchMode d => { d with batchMode }]

theorem environmentSteps_eq (env : Environment) :
    environmentSteps env = env.changes.map Change.step := by
  simp only [environmentSteps, changes, List.map_cons, List.map_nil, Change.stepFrom_eq_always,
    Change.stepFrom_eq_of (readColorMode_eq _), Change.stepFrom_eq_of (readBoolean_eq _)]

theorem changes_valid_iff (env : Environment) :
    (∀ c ∈ env.changes, Change.error? c = none) ↔ env.Valid := by
  simp only [changes, List.forall_mem_cons, List.not_mem_nil, false_imp_iff, implies_true, and_true,
    Change.error?_of, Change.error?_always, true_and]
  constructor
  · rintro ⟨hcolor, hbatch⟩
    exact ⟨hcolor, hbatch⟩
  · intro h
    exact ⟨h.colorMode, h.batchMode⟩

theorem foldl_changes (env : Environment) (d : Draft) :
    env.changes.foldl Change.apply d = d.under env.layer := by
  simp only [changes, List.foldl_cons, List.foldl_nil, Change.apply_of, Change.apply_always,
    Draft.under, layer]
  cases env.get? "EMPHLOG_PREFIX" <;>
    cases (env.nonempty? "EMPHLOG_COLOR").bind ColorMode.ofName? <;>
    cases env.get? "EMPHLOG_VERBOSE" <;>
    cases (env.nonempty? "EMPHLOG_BATCH_MODE").bind boolean? <;> rfl

end Environment

theorem Draft.mergeEnvironment_error_iff (d : Draft) (env : Environment) :
    (d.mergeEnvironment env).2 = none ↔ env.Valid := by
  rw [mergeEnvironment, Environment.environmentSteps_eq, Change.applySteps_error,
    List.findSome?_eq_none_iff, Environment.changes_valid_iff]

theorem Draft.mergeEnvironment_of_valid (d : Draft) {env : Environment} (h : env.Valid) :
    d.mergeEnvironment env = (d.under env.layer, none) := by
  have hchanges := env.changes_valid_iff.mpr h
  rw [mergeEnvironment, Environment.environmentSteps_eq, Change.applySteps_of_valid d hchanges,
    Environment.foldl_changes]

theorem Draft.mergeEnvironment_of_not_valid (d : Draft) {env : Environment} (h : ¬env.Valid) :
    ∃ kept e, d.mergeEnvironment env = (kept, some e) := by
  obtain ⟨e, he⟩ := Option.ne_none_iff_exists'.mp (mt (d.mergeEnvironment_error_iff env).mp h)
  exact ⟨_, e, Prod.ext rfl he⟩

/-! ### Sources -/

/-- What a draft takes settings from: a table, with the name of the place where it was found, or an
environment. -/
inductive Source
  | table (name : String) (t : SettingsTable)
  | environment (env : Environment)

/-- Applies a source to a draft, up to the first value that is wrong. -/
def Draft.take (d : Draft) : Source → Draft × Option SettingsError
  | .table name t => (d.merge name t).value
  | .environment env => d.mergeEnvironment env

/-- Applies sources in turn. One with a wrong value does not keep the others back. -/
def Draft.takeAll (d : Draft) (sources : List Source) : Draft :=
  sources.foldl (fun d source => (d.take source).1) d

def Source.setsVerbose : Source → Bool
  | .table _ t => t.has "verbose"
  | .environment env => env.has "EMPHLOG_VERBOSE"

theorem Draft.take_keeps_verbose (d : Draft) {source : Source} (h : source.setsVerbose = false) :
    (d.take source).1.verbose = d.verbose := by
  cases source with
  | table name t =>
    have hnone : t.get? "verbose" = none := Option.isNone_iff_eq_none.mp (by
      simpa [Source.setsVerbose, Entries.has] using h)
    show (applySteps (tableSteps name t) d).1.verbose = d.verbose
    rw [SettingsTable.tableSteps_eq]
    refine Change.applySteps_keeps Draft.verbose ?_ d
    simp only [SettingsTable.changes, hnone, List.forall_mem_cons, List.not_mem_nil, false_imp_iff,
      implies_true, and_true]
    refine ⟨Change.apply_of_keeps Draft.verbose ?_ _ _ _,
      Change.apply_of_keeps Draft.verbose ?_ _ _ _, fun _ => rfl,
      Change.apply_of_keeps Draft.verbose ?_ _ _ _,
      Change.apply_of_keeps Draft.verbose ?_ _ _ _⟩ <;> exact fun _ _ => rfl
  | environment env =>
    have hnone : env.get? "EMPHLOG_VERBOSE" = none := Option.isNone_iff_eq_none.mp (by
      simpa [Source.setsVerbose, Entries.has] using h)
    show (applySteps (environmentSteps env) d).1.verbose = d.verbose
    rw [Environment.environmentSteps_eq]
    refine Change.applySteps_keeps Draft.verbose ?_ d
    simp only [Environment.changes, hnone, List.forall_mem_cons, List.not_mem_nil, false_imp_iff,
      implies_true, and_true]
    refine ⟨Change.apply_always_keeps Draft.verbose ?_ _,
      Change.apply_of_keeps Draft.verbose ?_ _ _ _, fun _ => rfl,
      Change.apply_of_keeps Draft.verbose ?_ _ _ _⟩ <;> exact fun _ _ => rfl

theorem Draft.takeAll_keeps_verbose (sources : List Source) (d : Draft)
    (h : ∀ source ∈ sources, source.setsVerbose = false) :
    (d.takeAll sources).verbose = d.verbose := by
  induction sources generalizing d with
  | nil => rfl
  | cons source rest ih =>
    have hfirst := d.take_keeps_verbose (h source (List.mem_cons_self ..))
    exact (ih _ fun source hs => h source (List.mem_cons_of_mem _ hs)).trans hfirst

end MarkupLog
