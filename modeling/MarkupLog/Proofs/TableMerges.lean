import MarkupLog.Proofs.Layers
import MarkupLog.Proofs.Palettes

/-!
# Tables merged in turn

Two tables that are merged in turn leave the draft that one table leaves, which has the pairs of the
first with those of the second over them. The colors are put over one another entry by entry, so
that their order is kept as well.
-/

namespace MarkupLog

/-! ### Putting entries over entries -/

namespace Entries

variable {κ α β : Type} [DecidableEq κ]

theorem put_put (t : Entries κ α) (key : κ) (first second : α) :
    (t.put key first).put key second = t.put key second := by
  induction t with
  | nil => simp [put]
  | cons p rest ih =>
    obtain ⟨k, v⟩ := p
    by_cases hk : k = key
    · simp [put, hk]
    · simp [put, hk, ih]

theorem put_comm {t : Entries κ α} {key other : κ} (hne : other ≠ key) (hmem : key ∈ t.keys)
    (value more : α) : (t.put other more).put key value = (t.put key value).put other more := by
  induction t with
  | nil => cases hmem
  | cons p rest ih =>
    obtain ⟨k, v⟩ := p
    by_cases hk : k = key
    · subst hk
      simp [put, Ne.symm hne]
    · have hrest : key ∈ keys rest := (List.mem_cons.mp hmem).resolve_left (Ne.symm hk)
      by_cases ho : k = other
      · simp [put, ho, hne]
      · simp [put, hk, ho, ih hrest]

theorem mem_keys_put {t : Entries κ α} {key : κ} (h : key ∈ t.keys) (other : κ) (value : α) :
    key ∈ (t.put other value).keys := by
  rw [keys_put]
  split
  · exact h
  · exact List.mem_append_left _ h

theorem mem_keys_put_self (t : Entries κ α) (key : κ) (value : α) :
    key ∈ (t.put key value).keys := by
  rw [keys_put]
  split
  · assumption
  · exact List.mem_append_right _ (List.mem_singleton_self key)

/- A key that is known keeps its place, so it does not matter when it is set. -/
theorem put_putAll {t more : Entries κ α} {key : κ} (hmem : key ∈ t.keys)
    (hother : key ∉ more.keys) (value : α) :
    (t.putAll more).put key value = (t.put key value).putAll more := by
  induction more generalizing t with
  | nil => rfl
  | cons p rest ih =>
    obtain ⟨hfirst, hrest⟩ := not_or.mp (mt List.mem_cons.mpr hother)
    rw [putAll_cons, ih (mem_keys_put hmem p.1 p.2) hrest, put_comm (Ne.symm hfirst) hmem,
      putAll_cons]

theorem putAll_put {t a : Entries κ α} (ha : a.keys.Nodup) (key : κ) (value : α) :
    t.putAll (a.put key value) = (t.putAll a).put key value := by
  induction a generalizing t with
  | nil => rfl
  | cons p rest ih =>
    obtain ⟨k, v⟩ := p
    obtain ⟨hfirst, hrest⟩ := List.nodup_cons.mp ha
    by_cases hk : k = key
    · subst hk
      have hset : put ((k, v) :: rest) k value = (k, value) :: rest := if_pos rfl
      rw [hset, putAll_cons, putAll_cons, put_putAll (mem_keys_put_self t k v) hfirst, put_put]
    · have hset : put ((k, v) :: rest) key value = (k, v) :: put rest key value := if_neg hk
      rw [hset, putAll_cons, putAll_cons, ih hrest]

theorem putAll_putAll (t : Entries κ α) {a : Entries κ α} (ha : a.keys.Nodup)
    (b : Entries κ α) : t.putAll (a.putAll b) = (t.putAll a).putAll b := by
  induction b generalizing a with
  | nil => rfl
  | cons p rest ih =>
    rw [putAll_cons, ih (nodup_put ha p.1 p.2), putAll_put ha, putAll_cons]

theorem put_of_get? {t : Entries κ α} {key : κ} {value : α} (h : t.get? key = some value) :
    t.put key value = t := by
  induction t with
  | nil => cases h
  | cons p rest ih =>
    obtain ⟨k, v⟩ := p
    rw [get?_cons] at h
    by_cases hk : k = key
    · rw [if_pos hk] at h
      cases h
      simp [put, hk]
    · rw [if_neg hk] at h
      simp [put, hk, ih h]

theorem putAll_of_get? {t more : Entries κ α} (h : ∀ p ∈ more, t.get? p.1 = some p.2) :
    t.putAll more = t := by
  induction more with
  | nil => rfl
  | cons p rest ih =>
    rw [List.forall_mem_cons] at h
    rw [putAll_cons, put_of_get? h.1, ih h.2]

theorem putAll_self {t : Entries κ α} (h : t.keys.Nodup) : t.putAll t = t := by
  apply putAll_of_get?
  intro p hp
  exact (mem_iff_get? h).mp hp

theorem get?_putAll (t : Entries κ α) {more : Entries κ α} (h : more.keys.Nodup) (key : κ) :
    (t.putAll more).get? key = (more.get? key).or (t.get? key) := by
  induction more generalizing t with
  | nil => rfl
  | cons p rest ih =>
    obtain ⟨k, v⟩ := p
    obtain ⟨hfirst, hrest⟩ := List.nodup_cons.mp h
    rw [putAll_cons, ih _ hrest, get?_put, get?_cons]
    by_cases hk : k = key
    · subst hk
      rw [if_pos rfl, if_pos rfl, get?_eq_none hfirst]
      rfl
    · rw [if_neg hk, if_neg hk]

theorem get?_filter (t : Entries κ α) (keys : List κ) (key : κ) :
    get? (t.filter fun p => p.1 ∈ keys) key = if key ∈ keys then t.get? key else none := by
  induction t with
  | nil => simp
  | cons p rest ih =>
    obtain ⟨k, v⟩ := p
    rw [List.filter_cons, get?_cons]
    by_cases hk : k = key
    · subst hk
      by_cases hmem : k ∈ keys
      · simp [hmem]
      · rw [if_neg hmem] at ih
        simp [hmem, ih]
    · by_cases hmem : k ∈ keys
      · simp [hmem, hk, ih]
      · simp [hmem, hk, ih]

theorem putAll_map (g : α → β) (t more : Entries κ α) :
    putAll (t.map fun p => (p.1, g p.2)) (more.map fun p => (p.1, g p.2)) =
      (t.putAll more).map fun p => (p.1, g p.2) := by
  have hput : ∀ (t : Entries κ α) (key : κ) (value : α),
      put (t.map fun p => (p.1, g p.2)) key (g value) =
        (t.put key value).map fun p => (p.1, g p.2) := by
    intro t key value
    induction t with
    | nil => rfl
    | cons p rest ih =>
      obtain ⟨k, v⟩ := p
      by_cases hk : k = key
      · simp [put, hk]
      · simp [put, hk, ih]
  induction more generalizing t with
  | nil => rfl
  | cons p rest ih => rw [List.map_cons, putAll_cons, hput, ih, putAll_cons]

end Entries

/-! ### Tables of colors -/

namespace Value

/-- The value that names colors. -/
def ofColors (colors : Entries String String) : Value :=
  .table (colors.map fun p => (p.1, .str p.2))

theorem stringEntries?_eq_some_iff (entries : List (String × Value))
    (colors : Entries String String) :
    stringEntries? entries = some colors ↔ entries = colors.map fun p => (p.1, .str p.2) := by
  induction entries generalizing colors with
  | nil =>
    cases colors with
    | nil => exact iff_of_true rfl rfl
    | cons p rest =>
      constructor
      · intro h
        cases h
      · intro h
        cases h
  | cons pair rest ih =>
    obtain ⟨k, v⟩ := pair
    cases v with
    | str s =>
      rw [stringEntries?, Option.map_eq_some_iff]
      constructor
      · intro h
        obtain ⟨more, hmore, hcolors⟩ := h
        rw [← hcolors, List.map_cons, ← (ih more).mp hmore]
      · intro h
        cases colors with
        | nil => cases h
        | cons p more =>
          obtain ⟨hfirst, hrest⟩ := List.cons.inj h
          cases hfirst
          exact ⟨more, (ih more).mpr hrest, rfl⟩
    | _ =>
      constructor
      · intro h
        cases h
      · intro h
        cases colors with
        | nil => cases h
        | cons p more => cases (List.cons.inj h).1

theorem colors?_eq_some_iff (v : Value) (colors : Entries String String) :
    v.colors? = some colors ↔ v = ofColors colors := by
  cases v with
  | table entries => rw [colors?, stringEntries?_eq_some_iff, ofColors, Value.table.injEq]
  | _ =>
    -- No other value names colors.
    constructor
    · intro h
      cases h
    · intro h
      cases h

theorem colors?_ofColors (colors : Entries String String) :
    (ofColors colors).colors? = some colors :=
  (colors?_eq_some_iff _ colors).mpr rfl

end Value

namespace SettingsTable

theorem Valid.exists_colors {t : SettingsTable} (h : t.Valid) :
    ∃ colors : Option (Entries String String), t.get? "colors" = colors.map Value.ofColors := by
  cases hcolors : t.get? "colors" with
  | none => exact ⟨none, rfl⟩
  | some v =>
    obtain ⟨colors, hv⟩ := Option.isSome_iff_exists.mp (h.colors v hcolors)
    rw [Value.colors?_eq_some_iff] at hv
    exact ⟨some colors, congrArg some hv⟩

theorem layer_colors {t : SettingsTable} {colors : Option (Entries String String)}
    (h : t.get? "colors" = colors.map Value.ofColors) : t.layer.colors = colors.getD [] := by
  unfold layer
  rw [h]
  cases colors with
  | none => rfl
  | some colors => rw [Option.map_some, Option.bind_some, Value.colors?_ofColors]

/-! ### Tables over tables -/

/-- Each key stands once in the table, and once in its table of colors. -/
structure KeysOnce (t : SettingsTable) : Prop where
  keys : t.keys.Nodup
  colors : ∀ entries, t.get? "colors" = some (.table entries) → (Entries.keys entries).Nodup

theorem KeysOnce.nodup_colors {t : SettingsTable} (h : t.KeysOnce) :
    t.layer.colors.keys.Nodup := by
  unfold layer
  cases hcolors : t.get? "colors" with
  | none => exact List.nodup_nil
  | some v =>
    rw [Option.bind_some]
    cases hv : v.colors? with
    | none => exact List.nodup_nil
    | some colors =>
      rw [Value.colors?_eq_some_iff] at hv
      rw [hv] at hcolors
      have hkeys := h.colors _ hcolors
      unfold Entries.keys at hkeys
      rw [List.map_map] at hkeys
      exact hkeys

/-- A table with the pairs of `u` over its own; two tables of colors are put over one another. -/
def overriddenBy (t u : SettingsTable) : SettingsTable :=
  match t.get? "colors", u.get? "colors" with
  | some (.table a), some (.table b) => (t.putAll u).put "colors" (.table (Entries.putAll a b))
  | _, _ => t.putAll u

section Overridden

variable {t u : SettingsTable} (hkeys : u.keys.Nodup)

include hkeys

theorem get?_overriddenBy {key : String} (hkey : key ≠ "colors") :
    (t.overriddenBy u).get? key = (u.get? key).or (t.get? key) := by
  unfold overriddenBy
  split
  · rw [Entries.get?_put, if_neg (Ne.symm hkey), Entries.get?_putAll t hkeys]
  · rw [Entries.get?_putAll t hkeys]

theorem get?_overriddenBy_colors {a b : Option (Entries String String)}
    (ht : t.get? "colors" = a.map Value.ofColors) (hu : u.get? "colors" = b.map Value.ofColors) :
    (t.overriddenBy u).get? "colors" = (Option.merge Entries.putAll a b).map Value.ofColors := by
  have hover := Entries.get?_putAll t hkeys "colors"
  unfold overriddenBy
  rw [ht, hu] at hover ⊢
  cases a with
  | none =>
    cases b with
    | none => exact hover
    | some b => exact hover
  | some a =>
    cases b with
    | none => exact hover
    | some b =>
      simp only [Option.map_some, Value.ofColors, Option.merge_some_some]
      rw [Entries.get?_put, if_pos rfl, Entries.putAll_map]

theorem valid_overriddenBy (ht : t.Valid) (hu : u.Valid) : (t.overriddenBy u).Valid := by
  have hor : ∀ {α : Type} {meaning : Value → Option α} {upper lower : Option Value},
      (∀ v, upper = some v → (meaning v).isSome) → (∀ v, lower = some v → (meaning v).isSome) →
      ∀ v, upper.or lower = some v → (meaning v).isSome := by
    intro α meaning upper lower hupper hlower v hv
    cases upper with
    | none => exact hlower v hv
    | some w => exact hupper v hv
  constructor
  · rw [get?_overriddenBy hkeys (by decide)]
    exact hor hu.lead ht.lead
  · rw [get?_overriddenBy hkeys (by decide)]
    exact hor hu.colorMode ht.colorMode
  · rw [get?_overriddenBy hkeys (by decide)]
    exact hor hu.verbose ht.verbose
  · rw [get?_overriddenBy hkeys (by decide)]
    exact hor hu.batchMode ht.batchMode
  · obtain ⟨a, ha⟩ := ht.exists_colors
    obtain ⟨b, hb⟩ := hu.exists_colors
    rw [get?_overriddenBy_colors hkeys ha hb]
    intro v hv
    obtain ⟨colors, -, hcolors⟩ := Option.map_eq_some_iff.mp hv
    rw [← hcolors, Value.colors?_ofColors]
    rfl

theorem getD_overriddenBy {α : Type} {key : String} {meaning : Value → Option α}
    (hkey : key ≠ "colors") (hu : ∀ v, u.get? key = some v → (meaning v).isSome) (x : α) :
    (((t.overriddenBy u).get? key).bind meaning).getD x =
      ((u.get? key).bind meaning).getD (((t.get? key).bind meaning).getD x) := by
  rw [get?_overriddenBy hkeys hkey]
  cases hv : u.get? key with
  | none => rfl
  | some v =>
    obtain ⟨b, hb⟩ := Option.isSome_iff_exists.mp (hu v hv)
    rw [Option.some_or, Option.bind_some, hb, Option.getD_some, Option.getD_some]

theorem under_overriddenBy (ht : t.Valid) (hu : u.Valid) (hcolors : t.layer.colors.keys.Nodup)
    (d : Draft) : d.under (t.overriddenBy u).layer = (d.under t.layer).under u.layer := by
  obtain ⟨a, ha⟩ := ht.exists_colors
  obtain ⟨b, hb⟩ := hu.exists_colors
  have hover := layer_colors (get?_overriddenBy_colors hkeys ha hb)
  rw [layer_colors ha] at hcolors
  have hput : d.colors.putAll (t.overriddenBy u).layer.colors =
      (d.colors.putAll t.layer.colors).putAll u.layer.colors := by
    rw [hover, layer_colors ha, layer_colors hb]
    cases a with
    | none => cases b <;> rfl
    | some a =>
      cases b with
      | none => rfl
      | some b => exact Entries.putAll_putAll d.colors hcolors b
  rw [Draft.under, hput, Draft.under, Draft.under, Draft.mk.injEq]
  refine ⟨?_, ?_, ?_, ?_, rfl⟩
  · exact getD_overriddenBy hkeys (by decide) hu.lead d.lead
  · exact getD_overriddenBy hkeys (by decide) hu.colorMode d.colorMode
  · exact getD_overriddenBy hkeys (by decide) hu.verbose d.verbose
  · exact getD_overriddenBy hkeys (by decide) hu.batchMode d.batchMode

end Overridden

/-! ### Parts of tables -/

/-- The part of a table that some keys make up. -/
def only (t : SettingsTable) (keys : List String) : SettingsTable :=
  t.filter fun p => p.1 ∈ keys

theorem get?_only (t : SettingsTable) (keys : List String) (key : String) :
    (t.only keys).get? key = if key ∈ keys then t.get? key else none :=
  Entries.get?_filter t keys key

theorem KeysOnce.only {t : SettingsTable} (h : t.KeysOnce) (keys : List String) :
    (t.only keys).KeysOnce where
  keys := (List.filter_sublist.map Prod.fst).nodup h.keys
  colors := by
    intro entries hentries
    rw [get?_only] at hentries
    split at hentries
    · exact h.colors entries hentries
    · cases hentries

theorem changes_only (source : String) (t : SettingsTable) :
    changes source (t.only settingsKeys) = changes source t := by
  simp only [changes, get?_only, settingsKeys, List.mem_cons, List.not_mem_nil, true_or, or_true,
    if_true]

theorem foldl_take_changes (source : String) (t : SettingsTable) (k : Nat) (d : Draft) :
    ((changes source t).take k).foldl Change.apply d =
      d.under (t.only (settingsKeys.take k)).layer := by
  rw [← foldl_changes source]
  match k with
  | 0 => simp [changes, settingsKeys, get?_only, Change.apply_of]
  | 1 => simp [changes, settingsKeys, get?_only, Change.apply_of]
  | 2 => simp [changes, settingsKeys, get?_only, Change.apply_of]
  | 3 => simp [changes, settingsKeys, get?_only, Change.apply_of]
  | 4 => simp [changes, settingsKeys, get?_only, Change.apply_of]
  | k + 5 => simp [changes, settingsKeys, get?_only, Change.apply_of]

end SettingsTable

/-! ### Merging in turn -/

/- The changes that are applied are those in front of the first error, whatever the draft. -/
theorem Change.applySteps_stops (changes : List Change) :
    ∃ k, ∀ d, (applySteps (changes.map step) d).1 = (changes.take k).foldl apply d := by
  induction changes with
  | nil => exact ⟨0, fun _ => rfl⟩
  | cons c rest ih =>
    cases c with
    | ok change =>
      obtain ⟨k, hk⟩ := ih
      exact ⟨k + 1, fun d => hk (change d)⟩
    | error e => exact ⟨0, fun _ => rfl⟩

namespace Draft

theorem exists_merged (source : String) (t : SettingsTable) :
    ∃ keys, ∀ d : Draft, (d.merge source t).value.1 = d.under (t.only keys).layer := by
  obtain ⟨k, hk⟩ := Change.applySteps_stops (SettingsTable.changes source t)
  refine ⟨settingsKeys.take k, ?_⟩
  intro d
  rw [merge, SettingsTable.tableSteps_eq, hk, SettingsTable.foldl_take_changes]

theorem under_self (d : Draft) {l : Layer} (h : l.colors.keys.Nodup) :
    (d.under l).under l = d.under l := by
  have hput : (d.colors.putAll l.colors).putAll l.colors = d.colors.putAll l.colors := by
    rw [← Entries.putAll_putAll d.colors h, Entries.putAll_self h]
  have hset : ∀ {α : Type} (value? : Option α) (x : α),
      value?.getD (value?.getD x) = value?.getD x := by
    intro α value? x
    cases value? <;> rfl
  simp only [under, hput, hset]

theorem merge_again (d : Draft) (source : String) {t : SettingsTable} (h : t.KeysOnce) :
    ((d.merge source t).value.1.merge source t).value = (d.merge source t).value := by
  obtain ⟨keys, hmerged⟩ := exists_merged source t
  have hcolors := (h.only keys).nodup_colors
  apply Prod.ext
  · rw [hmerged, hmerged, under_self d hcolors]
  · simp only [merge, SettingsTable.tableSteps_eq, Change.applySteps_error]

theorem merge_overriddenBy (d : Draft) (source other joint : String) {t u : SettingsTable}
    (ht : t.KeysOnce) (hu : u.KeysOnce) (hvalid : t.Valid) (huvalid : u.Valid) :
    ((d.merge source t).value.1.merge other u).value =
      (d.merge joint (t.overriddenBy u)).value := by
  have hboth := SettingsTable.valid_overriddenBy hu.keys hvalid huvalid
  have hunder := SettingsTable.under_overriddenBy hu.keys hvalid huvalid ht.nodup_colors d
  rw [merge_of_valid d source hvalid, merge_of_valid _ other huvalid, merge_of_valid d joint hboth,
    hunder]

theorem merge_only (d : Draft) (source : String) (t : SettingsTable) :
    (d.merge source (t.only settingsKeys)).value = (d.merge source t).value := by
  rw [merge, merge, SettingsTable.tableSteps_eq, SettingsTable.tableSteps_eq,
    SettingsTable.changes_only]

/-- Tables without errors that are merged in turn give what the second over the first gives at once.
Any table merged again changes nothing, and fails as before if it fails. Keys that are no settings
do not matter. -/
theorem merges_compose (d : Draft) (source other joint : String) {t u : SettingsTable}
    (ht : t.KeysOnce) (hu : u.KeysOnce) :
    ((d.merge source t).value.2 = none → (d.merge other u).value.2 = none →
      (d.merge joint (t.overriddenBy u)).value.2 = none ∧
      ((d.merge source t).value.1.merge other u).value =
        (d.merge joint (t.overriddenBy u)).value) ∧
    ((d.merge source t).value.1.merge source t).value = (d.merge source t).value ∧
    (d.merge source (t.only settingsKeys)).value = (d.merge source t).value := by
  refine ⟨?_, d.merge_again source ht, d.merge_only source t⟩
  intro hfirst hsecond
  rw [merge_error_iff] at hfirst hsecond
  have hboth := SettingsTable.valid_overriddenBy hu.keys hfirst hsecond
  exact ⟨(d.merge_error_iff joint _).mpr hboth,
    d.merge_overriddenBy source other joint ht hu hfirst hsecond⟩

/- The second table sets a color of the first and one of the draft anew; both keep their places. -/
theorem merges_compose_colors :
    let d : Draft := { colors := [("error", "red")] }
    let t : SettingsTable := [("prefix", .str "a"), ("theme", .int 1),
      ("colors", .table [("info", .str "red"), ("warn", .str "nope")])]
    let u : SettingsTable := [("colors", .table [("warn", .str "cyan"), ("error", .str "blue")]),
      ("verbose", .list [.str "api", .str "build"]), ("color", .bool true)]
    t.KeysOnce ∧ u.KeysOnce ∧
      (d.merge "t" t).value.2 = none ∧ (d.merge "u" u).value.2 = none ∧
      ((d.merge "t" t).value.1.merge "u" u).value = (d.merge "both" (t.overriddenBy u)).value ∧
      ((d.merge "t" t).value.1.merge "t" t).value = (d.merge "t" t).value ∧
      (d.merge "t" (t.only settingsKeys)).value = (d.merge "t" t).value ∧
      (d.merge "both" (t.overriddenBy u)).value =
        ({ lead := "a", colorMode := .always, verbose := some "api,build",
           colors := [("error", "blue"), ("info", "red"), ("warn", "cyan")] }, none) := by
  intro d t u
  have ht : t.KeysOnce := by
    refine ⟨by decide, ?_⟩
    intro entries hentries
    cases hentries
    decide
  have hu : u.KeysOnce := by
    refine ⟨by decide, ?_⟩
    intro entries hentries
    cases hentries
    decide
  have hfirst : (d.merge "t" t).value.2 = none := by decide
  have hsecond : (d.merge "u" u).value.2 = none := by decide
  obtain ⟨hcompose, htwice, hknown⟩ := merges_compose d "t" "u" "both" ht hu
  obtain ⟨-, hboth⟩ := hcompose hfirst hsecond
  have hresult : (d.merge "both" (t.overriddenBy u)).value =
      ({ lead := "a", colorMode := .always, verbose := some "api,build",
         colors := [("error", "blue"), ("info", "red"), ("warn", "cyan")] }, none) := by
    decide +kernel
  exact ⟨ht, hu, hfirst, hsecond, hboth, htwice, hknown, hresult⟩

end Draft

end MarkupLog
