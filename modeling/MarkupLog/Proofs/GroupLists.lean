import MarkupLog.Proofs.Groups
import MarkupLog.Proofs.Layers

/-!
# Lists of groups

A table may give the groups to show as a list of strings. The list becomes one text, its items with
commas between them, and that text is read as a specification. The commas keep the items apart, so
the text of two items or more is never a word for all or for none, and shows only what some item
names. The text of a single item is that item: if it is empty, it asks for everything.
-/

namespace MarkupLog

/-! ### Cutting and joining -/

namespace Text

theorem pieces_ne_nil {α : Type} [DecidableEq α] (sep : α) (cs : List α) : pieces sep cs ≠ [] := by
  cases cs with
  | nil => exact List.cons_ne_nil _ _
  | cons c rest =>
    unfold pieces
    split
    · exact List.cons_ne_nil _ _
    · split <;> exact List.cons_ne_nil _ _

theorem pieces_append_cons {α : Type} [DecidableEq α] (sep : α) (a b : List α) :
    pieces sep (a ++ sep :: b) = pieces sep a ++ pieces sep b := by
  induction a with
  | nil => simp [pieces]
  | cons c a ih =>
    by_cases hc : c = sep
    · simp [pieces, hc, ih]
    · obtain ⟨p, ps, hp⟩ := List.exists_cons_of_ne_nil (pieces_ne_nil sep a)
      simp [pieces, hc, ih, hp]

theorem split_append (sep : Char) (a b : String) :
    split sep (a ++ String.singleton sep ++ b) = split sep a ++ split sep b := by
  simp only [split, String.toList_append, String.toList_singleton, List.append_assoc,
    List.singleton_append, pieces_append_cons, List.map_append]

theorem split_join (sep : Char) {names : List String} (h : names ≠ []) :
    split sep (join (String.singleton sep) names) = names.flatMap (split sep) := by
  induction names with
  | nil => exact absurd rfl h
  | cons name rest ih =>
    cases rest with
    | nil => simp [join]
    | cons next rest =>
      have hrest := ih (List.cons_ne_nil next rest)
      show split sep (name ++ String.singleton sep ++
        join (String.singleton sep) (next :: rest)) = _
      rw [split_append, hrest]
      rfl

theorem mem_trimmed {c : Char} {cs : List Char} (hblank : isBlank c = false) (hc : c ∈ cs) :
    c ∈ trimmed cs := by
  have hkept {l : List Char} (hl : c ∈ l) : c ∈ l.dropWhile isBlank := by
    rw [← List.takeWhile_append_dropWhile (p := isBlank) (l := l), List.mem_append] at hl
    refine hl.resolve_left fun hdropped => ?_
    have htrue := List.mem_takeWhile_imp hdropped
    rw [hblank] at htrue
    cases htrue
  unfold trimmed
  exact List.mem_reverse.mpr (hkept (List.mem_reverse.mpr (hkept hc)))

theorem comma_mem_key {s : String} (h : ',' ∈ s.toList) : ',' ∈ (lower (trim s)).toList := by
  have htrim : ',' ∈ trimmed s.toList := mem_trimmed (by decide) h
  rw [lower, trim, String.toList_ofList, String.toList_ofList]
  exact List.mem_flatMap.mpr ⟨',', htrim, by decide⟩

theorem comma_mem_join (first second : String) (rest : List String) :
    ',' ∈ (join "," (first :: second :: rest)).toList := by
  simp [join]

end Text

namespace Verbosity

/-! ### Reading the text of a list -/

/-- What a list of groups asks for: the groups that its items name, or all groups when its only item
is a word for all. -/
def ListAsksFor (names : List String) (c : Category) : Prop :=
  (∃ name ∈ names, ∃ part ∈ Text.split ',' name, Names (Text.trim part) c) ∨
    ∃ name, names = [name] ∧
      (Text.lower (Text.trim name) = "all" ∨ Text.lower (Text.trim name) = "true")

theorem not_asksForAll_join (first second : String) (rest : List String) :
    ¬AsksForAll (some (Text.join "," (first :: second :: rest))) := by
  have hcomma := Text.comma_mem_join first second rest
  have hkey := Text.comma_mem_key hcomma
  rintro (hempty | htrue | hall)
  · rw [hempty] at hcomma
    exact absurd hcomma (by decide)
  · rw [htrue] at hkey
    exact absurd hkey (by decide)
  · rw [hall] at hkey
    exact absurd hkey (by decide)

theorem shows_named_part {text : String} {c : Category}
    (hall : ¬AsksForAll (some text)) (hc : (read (some text)).1.shows c = true) :
    ∃ part ∈ Text.split ',' text, Names (Text.trim part) c := by
  have hread := read_failsClosed (some text)
  have hnone : ¬AsksForNone (some text) := fun h => by
    rw [(hread.none h).1 c] at hc
    cases hc
  obtain ⟨-, name, hname, hnames⟩ := ((hread.list text rfl hall hnone).2 c).mp hc
  obtain ⟨part, hpart, rfl⟩ := List.mem_map.mp (List.mem_filter.mp hname).1
  exact ⟨part, hpart, hnames⟩

theorem listAsksFor_of_shows {names : List String} (hnames : names ≠ [""]) {c : Category}
    (hc : (read (some (Value.listSpecification names))).1.shows c = true) :
    ListAsksFor names c := by
  rcases names with _ | ⟨first, _ | ⟨second, rest⟩⟩
  · have hnone := (read_failsClosed (some "false")).none (by decide +kernel)
    exact absurd hc (ne_true_of_eq_false (hnone.1 c))
  · by_cases hall : AsksForAll (some first)
    · rcases hall with hempty | htrue | hall
      · exact absurd (congrArg (fun name => [name]) hempty) hnames
      · exact .inr ⟨first, rfl, .inr htrue⟩
      · exact .inr ⟨first, rfl, .inl hall⟩
    · exact .inl ⟨first, List.mem_singleton_self first, shows_named_part hall hc⟩
  · obtain ⟨part, hpart, hnamed⟩ := shows_named_part (not_asksForAll_join first second rest) hc
    have hsplit : Text.split ',' (Text.join "," (first :: second :: rest)) =
        (first :: second :: rest).flatMap (Text.split ',') :=
      Text.split_join ',' (List.cons_ne_nil first (second :: rest))
    rw [hsplit, List.mem_flatMap] at hpart
    obtain ⟨name, hname, hpart⟩ := hpart
    exact .inl ⟨name, hname, part, hpart, hnamed⟩

theorem not_listAsksFor_empty (c : Category) : ¬ListAsksFor [""] c := by
  rintro (⟨name, hname, part, hpart, hnames⟩ | ⟨name, hname, hword⟩)
  · rw [List.mem_singleton.mp hname] at hpart
    have hempty : part = "" := by simpa [Text.split, Text.pieces] using hpart
    subst hempty
    cases c <;> exact absurd hnames (by decide +kernel)
  · obtain rfl : "" = name := (List.cons.inj hname).1
    exact absurd hword (by decide +kernel)

end Verbosity

/-! ### Settings with a list of groups -/

theorem stringItems?_str (names : List String) : stringItems? (names.map .str) = some names := by
  induction names with
  | nil => rfl
  | cons name rest ih => exact congrArg (Option.map (name :: ·)) ih

theorem Draft.freeze_verbose {d : Draft} {s : Settings} (h : d.freeze = .ok s) :
    s.verbose = d.verbose := by
  unfold freeze at h
  cases hpalette : Palette.ofEntries d.colors with
  | error e =>
    rw [hpalette] at h
    cases h
  | ok palette =>
    rw [hpalette] at h
    cases h
    rfl

/- The list reaches the logger as one text: it is the last that set the groups. -/
theorem verbose_of_list {d : Draft} {place : String} {t : SettingsTable} {names : List String}
    {later : List Source} {s : Settings}
    (hlist : t.get? "verbose" = some (.list (names.map .str)))
    (hmerged : (d.merge place t).value.2 = none)
    (hlater : ∀ source ∈ later, source.setsVerbose = false)
    (hs : ((d.merge place t).value.1.takeAll later).freeze = .ok s) :
    s.verbose = some (Value.listSpecification names) := by
  have hvalid := (d.merge_error_iff place t).mp hmerged
  have hlayer : t.layer.verbose = some (some (Value.listSpecification names)) := by
    simp [SettingsTable.layer, hlist, Value.verbose?, stringItems?_str]
  rw [Draft.freeze_verbose hs, Draft.takeAll_keeps_verbose later _ hlater,
    d.merge_of_valid place hvalid]
  show t.layer.verbose.getD d.verbose = _
  rw [hlayer, Option.getD_some]

namespace Logger

/-- A list of groups that a table gives shows no more than it asks for, whatever else the draft was
made of, unless it is the list of one empty text. -/
theorem list_shows_asked_iff {d : Draft} {place : String} {t : SettingsTable} {names : List String}
    {later : List Source} {s : Settings} (useColor : Bool)
    (hlist : t.get? "verbose" = some (.list (names.map .str)))
    (hmerged : (d.merge place t).value.2 = none)
    (hlater : ∀ source ∈ later, source.setsVerbose = false)
    (hs : ((d.merge place t).value.1.takeAll later).freeze = .ok s) :
    (∀ c, (build (.ofSettings s useColor)).1.verbosity.shows c = true →
      Verbosity.ListAsksFor names c) ↔ names ≠ [""] := by
  have hverbosity : (build (.ofSettings s useColor)).1.verbosity =
      (Verbosity.read (some (Value.listSpecification names))).1 := by
    rw [← verbose_of_list hlist hmerged hlater hs]
    rfl
  rw [hverbosity]
  constructor
  · rintro hasked rfl
    exact Verbosity.not_listAsksFor_empty .api (hasked .api rfl)
  · exact fun hnames c hc => Verbosity.listAsksFor_of_shows hnames hc

/- An empty text beside another item does no harm, and the prefix that the environment sets later
does not touch the groups. -/
theorem list_shows_asked_merged :
    Entries.get? [("verbose", Value.list (["build", ""].map .str))] "verbose" =
      some (.list (["build", ""].map .str)) ∧
    (({} : Draft).merge "a.toml" [("verbose", .list (["build", ""].map .str))]).value.2 = none ∧
    (∀ source ∈ [Source.environment [("EMPHLOG_PREFIX", "> ")]], source.setsVerbose = false) ∧
    ((({} : Draft).merge "a.toml" [("verbose", .list (["build", ""].map .str))]).value.1.takeAll
      [.environment [("EMPHLOG_PREFIX", "> ")]]).freeze =
        .ok { lead := "> ", verbose := some "build," } ∧
    ((∀ c,
      (build (.ofSettings { lead := "> ", verbose := some "build," } true)).1.verbosity.shows c = true →
        Verbosity.ListAsksFor ["build", ""] c) ↔ ["build", ""] ≠ [""]) := by
  have hlist : Entries.get? [("verbose", Value.list (["build", ""].map .str))] "verbose" =
      some (.list (["build", ""].map .str)) := rfl
  have hmerged : (({} : Draft).merge "a.toml"
      [("verbose", .list (["build", ""].map .str))]).value.2 = none := by decide +kernel
  have hlater : ∀ source ∈ [Source.environment [("EMPHLOG_PREFIX", "> ")]],
      source.setsVerbose = false := by decide +kernel
  have hs : ((({} : Draft).merge "a.toml"
      [("verbose", .list (["build", ""].map .str))]).value.1.takeAll
      [.environment [("EMPHLOG_PREFIX", "> ")]]).freeze =
        .ok { lead := "> ", verbose := some "build," } := by decide +kernel
  exact ⟨hlist, hmerged, hlater, hs, list_shows_asked_iff true hlist hmerged hlater hs⟩

/- The list of one empty text becomes the empty text, which asks for everything. -/
theorem list_of_empty_text_shows_all :
    (({} : Draft).merge "a.toml" [("verbose", .list [.str ""])]).value =
      ({ verbose := some "" }, none) ∧
    ({ verbose := some "" } : Draft).freeze = .ok { verbose := some "" } ∧
    (build (.ofSettings { verbose := some "" } true)).1.verbosity.shows .build = true ∧
    ¬Verbosity.ListAsksFor [""] .build :=
  ⟨by decide +kernel, by decide +kernel, rfl, Verbosity.not_listAsksFor_empty .build⟩

end Logger

end MarkupLog
