import Mathlib.Data.List.DropRight
import MarkupLog.Proofs.Runs

/-!
# Shown groups

A specification shows every group, no group, or the groups that it names. Exactly one of three
things holds of it: some group is shown, the user asked for none, or there is a warning. So no slip
in a list of names goes unnoticed, and none shows a group. A logger gives its warnings when it is
built and never again.
-/

namespace MarkupLog

/-! ### Blanks -/

namespace Text

theorem trimmed_prefix (cs : List Char) : trimmed cs <+: cs.dropWhile isBlank := by
  unfold trimmed
  rw [← List.reverse_suffix, List.reverse_reverse]
  exact List.dropWhile_suffix isBlank

theorem dropWhile_trimmed (cs : List Char) : (trimmed cs).dropWhile isBlank = trimmed cs := by
  cases h : trimmed cs with
  | nil => rfl
  | cons c rest =>
    obtain ⟨tail, htail⟩ := trimmed_prefix cs
    have hfirst := List.head?_dropWhile_not isBlank cs
    rw [← htail, h] at hfirst
    have hc : ¬isBlank c = true := by simpa using hfirst
    rw [List.dropWhile_cons_of_neg hc]

theorem trimmed_trimmed (cs : List Char) : trimmed (trimmed cs) = trimmed cs := by
  have hback : ((trimmed cs).reverse.dropWhile isBlank).reverse = trimmed cs := by
    unfold trimmed
    rw [List.reverse_reverse, List.dropWhile_idempotent]
  rw [trimmed, dropWhile_trimmed, hback]

theorem trim_trim (s : String) : trim (trim s) = trim s := by
  simp only [trim, String.toList_ofList, trimmed_trimmed]

end Text

/-! ### Names of groups -/

namespace Category

theorem mem_all (c : Category) : c ∈ all := by
  cases c <;> decide

theorem ofName?_eq_some_iff {s : String} {c : Category} :
    ofName? s = some c ↔ Text.lower (Text.trim s) = c.name := by
  constructor
  · intro h
    have hname := List.find?_some h
    exact (of_decide_eq_true hname).symm
  · intro h
    unfold ofName?
    rw [h]
    cases c <;> decide

theorem ofName?_isNone_iff {s : String} :
    (ofName? s).isNone ↔ ∀ c : Category, Text.lower (Text.trim s) ≠ c.name := by
  rw [Option.isNone_iff_eq_none, Option.eq_none_iff_forall_ne_some]
  exact forall_congr' fun c => not_congr ofName?_eq_some_iff

end Category

namespace Verbosity

/-- A text names a group when it is the group's name but for the case of its letters. -/
def Names (text : String) (c : Category) : Prop :=
  Text.lower text = c.name

instance (text : String) (c : Category) : Decidable (Names text c) :=
  inferInstanceAs (Decidable (_ = _))

theorem trim_candidate {raw name : String} (h : name ∈ candidates raw) : Text.trim name = name := by
  obtain ⟨piece, -, hpiece⟩ := List.mem_map.mp (List.mem_filter.mp h).1
  rw [← hpiece, Text.trim_trim]

theorem ofName?_candidate {raw name : String} (h : name ∈ candidates raw) (c : Category) :
    Category.ofName? name = some c ↔ Names name c := by
  rw [Category.ofName?_eq_some_iff, trim_candidate h, Names]

theorem mem_namedGroups {raw : String} {c : Category} :
    c ∈ namedGroups raw ↔ ∃ name ∈ candidates raw, Names name c := by
  unfold namedGroups
  rw [List.mem_filter, List.any_eq_true]
  constructor
  · rintro ⟨-, name, hname, hc⟩
    exact ⟨name, hname, (ofName?_candidate hname c).mp (of_decide_eq_true hc)⟩
  · rintro ⟨name, hname, hc⟩
    exact ⟨c.mem_all, name, hname, decide_eq_true ((ofName?_candidate hname c).mpr hc)⟩

/-! ### What a specification asks for -/

def AsksForAll : Option String → Prop
  | none => True
  | some raw =>
    raw = "" ∨ Text.lower (Text.trim raw) = "true" ∨ Text.lower (Text.trim raw) = "all"

def AsksForNone : Option String → Prop
  | none => False
  | some raw => Text.lower (Text.trim raw) = "false"

instance : (raw : Option String) → Decidable (AsksForAll raw)
  | none => inferInstanceAs (Decidable True)
  | some _ => inferInstanceAs (Decidable (_ ∨ _ ∨ _))

instance : (raw : Option String) → Decidable (AsksForNone raw)
  | none => inferInstanceAs (Decidable False)
  | some _ => inferInstanceAs (Decidable (_ = _))

/-- The warnings about a list: each name of no group, in order, or that there is no name. -/
def slips (raw : String) : List String :=
  if candidates raw = [] then [noGroup]
  else ((candidates raw).filter fun name => ∀ c ∈ Category.all, ¬Names name c).map unknownGroup

/-- What is shown for a specification, and the warnings about it. -/
structure FailsClosed (raw : Option String) (v : Verbosity) (warnings : List String) : Prop where
  all : AsksForAll raw → (∀ c, v.shows c = true) ∧ warnings = []
  none : AsksForNone raw → (∀ c, v.shows c = false) ∧ warnings = []
  list : ∀ text, raw = some text → ¬AsksForAll raw → ¬AsksForNone raw →
    warnings = slips text ∧
    ∀ c, v.shows c = true ↔ warnings = [] ∧ ∃ name ∈ candidates text, Names name c
  one : ((∃ c, v.shows c = true) ∧ ¬AsksForNone raw ∧ warnings = []) ∨
    ((¬∃ c, v.shows c = true) ∧ AsksForNone raw ∧ warnings = []) ∨
    ((¬∃ c, v.shows c = true) ∧ ¬AsksForNone raw ∧ warnings ≠ [])
  any : v.showsAny = true ↔ ∃ c, v.shows c = true

/-! ### Queries -/

theorem showsAny_iff (v : Verbosity) : v.showsAny = true ↔ ∃ c, v.shows c = true := by
  cases v with
  | everything => exact iff_of_true rfl ⟨.api, rfl⟩
  | nothing => simp [showsAny, shows]
  | only groups => cases groups <;> simp [showsAny, shows]

theorem showsNamed_of_ofName? (v : Verbosity) {name : String} {c : Category}
    (h : Category.ofName? name = some c) : v.showsNamed name = v.shows c := by
  cases v with
  | everything => rfl
  | nothing => rfl
  | only groups => simp only [showsNamed, shows, h]

theorem shows_only {groups : List Category} {c : Category} :
    (only groups).shows c = true ↔ c ∈ groups :=
  List.contains_iff_mem

/-! ### Reading a list -/

theorem listWarnings_eq_slips (raw : String) : listWarnings raw = slips raw := by
  unfold listWarnings slips
  by_cases hnone : candidates raw = []
  · rw [if_pos hnone, if_pos (List.isEmpty_iff.mpr hnone)]
  · rw [if_neg hnone, if_neg (mt List.isEmpty_iff.mp hnone)]
    have hunknown : ∀ name ∈ candidates raw, (Category.ofName? name).isNone =
        decide (∀ c ∈ Category.all, ¬Names name c) := by
      intro name hname
      rw [Bool.eq_iff_iff, decide_eq_true_iff, Category.ofName?_isNone_iff, trim_candidate hname]
      exact ⟨fun h c _ => h c, fun h c => h c c.mem_all⟩
    rw [List.filter_congr hunknown]

/- A list without warnings names some group: its first name is the name of one. -/
theorem exists_named_of_slips_nil {raw : String} (h : slips raw = []) :
    ∃ c, ∃ name ∈ candidates raw, Names name c := by
  unfold slips at h
  cases hnames : candidates raw with
  | nil =>
    rw [if_pos hnames] at h
    cases h
  | cons name rest =>
    rw [if_neg (hnames ▸ List.cons_ne_nil name rest), List.map_eq_nil_iff, List.filter_eq_nil_iff,
      hnames] at h
    have hfirst := h name (List.mem_cons_self ..)
    rw [decide_eq_true_iff] at hfirst
    push Not at hfirst
    obtain ⟨c, -, hc⟩ := hfirst
    exact ⟨c, name, List.mem_cons_self .., hc⟩

/-! ### Reading a specification -/

theorem read_of_all {raw : Option String} (h : AsksForAll raw) : read raw = (.everything, []) := by
  cases raw with
  | none => rfl
  | some text =>
    have hall : text = "" ∨ Text.lower (Text.trim text) ∈ allWords := by
      simpa only [AsksForAll, allWords, List.mem_cons, List.not_mem_nil, or_false] using h
    exact if_pos hall

theorem not_asksForAll_of_none {raw : Option String} (h : AsksForNone raw) : ¬AsksForAll raw := by
  cases raw with
  | none => exact h.elim
  | some text =>
    have hkey : Text.lower (Text.trim text) = "false" := h
    intro hall
    simp only [AsksForAll, hkey] at hall
    rcases hall with hempty | htrue | hall
    · subst hempty
      exact absurd hkey (by decide +kernel)
    · exact absurd htrue (by decide)
    · exact absurd hall (by decide)

theorem read_of_not_all {text : String} (h : ¬AsksForAll (some text)) :
    read (some text) =
      if Text.lower (Text.trim text) = noWord then (.nothing, [])
      else if listWarnings text = [] then (.only (namedGroups text), [])
      else (.nothing, listWarnings text) := by
  have hall : ¬(text = "" ∨ Text.lower (Text.trim text) ∈ allWords) := by
    simpa only [AsksForAll, allWords, List.mem_cons, List.not_mem_nil, or_false] using h
  unfold read
  dsimp only
  rw [if_neg hall]
  cases listWarnings text <;> rfl

theorem read_of_none {raw : Option String} (h : AsksForNone raw) : read raw = (.nothing, []) := by
  cases raw with
  | none => exact h.elim
  | some text =>
    rw [read_of_not_all (not_asksForAll_of_none h)]
    exact if_pos h

theorem read_of_list {text : String} (hall : ¬AsksForAll (some text))
    (hnone : ¬AsksForNone (some text)) :
    read (some text) =
      if slips text = [] then (.only (namedGroups text), []) else (.nothing, slips text) := by
  rw [read_of_not_all hall, listWarnings_eq_slips]
  exact if_neg hnone

theorem read_cases (raw : Option String) :
    (AsksForAll raw ∧ read raw = (.everything, [])) ∨
    (AsksForNone raw ∧ read raw = (.nothing, [])) ∨
    ∃ text, raw = some text ∧ ¬AsksForAll raw ∧ ¬AsksForNone raw ∧
      ((slips text = [] ∧ read raw = (.only (namedGroups text), [])) ∨
        (slips text ≠ [] ∧ read raw = (.nothing, slips text))) := by
  by_cases hall : AsksForAll raw
  · exact .inl ⟨hall, read_of_all hall⟩
  by_cases hnone : AsksForNone raw
  · exact .inr (.inl ⟨hnone, read_of_none hnone⟩)
  cases raw with
  | none => exact absurd trivial hall
  | some text =>
    refine .inr (.inr ⟨text, rfl, hall, hnone, ?_⟩)
    rw [read_of_list hall hnone]
    by_cases hslips : slips text = []
    · exact .inl ⟨hslips, if_pos hslips⟩
    · exact .inr ⟨hslips, if_neg hslips⟩

theorem read_of_warnings {raw : Option String} (h : (read raw).2 ≠ []) :
    (read raw).1 = .nothing := by
  rcases read_cases raw with ⟨-, hread⟩ | ⟨-, hread⟩ | ⟨text, -, -, -, ⟨-, hread⟩ | ⟨-, hread⟩⟩
  · exact absurd (congrArg Prod.snd hread) h
  · rw [hread]
  · exact absurd (congrArg Prod.snd hread) h
  · rw [hread]

/-! ### Failing closed -/

theorem not_shows_nothing : ¬∃ c, Verbosity.nothing.shows c = true :=
  fun ⟨_, h⟩ => nomatch h

theorem read_failsClosed (raw : Option String) : FailsClosed raw (read raw).1 (read raw).2 := by
  rcases read_cases raw with ⟨hall, hread⟩ | ⟨hnone, hread⟩ | ⟨text, hraw, hall, hnone, hlist⟩
  · have hnone : ¬AsksForNone raw := fun h => not_asksForAll_of_none h hall
    rw [hread]
    exact ⟨fun _ => ⟨fun _ => rfl, rfl⟩, fun h => absurd h hnone, fun _ _ h => absurd hall h,
      .inl ⟨⟨.api, rfl⟩, hnone, rfl⟩, showsAny_iff _⟩
  · have hall : ¬AsksForAll raw := not_asksForAll_of_none hnone
    rw [hread]
    exact ⟨fun h => absurd h hall, fun _ => ⟨fun _ => rfl, rfl⟩, fun _ _ _ h => absurd hnone h,
      .inr (.inl ⟨not_shows_nothing, hnone, rfl⟩), showsAny_iff _⟩
  subst hraw
  rcases hlist with ⟨hslips, hread⟩ | ⟨hslips, hread⟩
  · obtain ⟨c, hc⟩ := exists_named_of_slips_nil hslips
    rw [hread]
    refine ⟨fun h => absurd h hall, fun h => absurd h hnone, ?_,
      .inl ⟨⟨c, shows_only.mpr (mem_namedGroups.mpr hc)⟩, hnone, rfl⟩, showsAny_iff _⟩
    rintro _ ⟨⟩ - -
    refine ⟨hslips.symm, fun c => ?_⟩
    rw [shows_only, mem_namedGroups]
    exact (and_iff_right rfl).symm
  · rw [hread]
    refine ⟨fun h => absurd h hall, fun h => absurd h hnone, ?_,
      .inr (.inr ⟨not_shows_nothing, hnone, hslips⟩), showsAny_iff _⟩
    rintro _ ⟨⟩ - -
    exact ⟨rfl, fun c => ⟨fun h => absurd ⟨c, h⟩ not_shows_nothing, fun h => absurd h.1 hslips⟩⟩

end Verbosity

/-! ### Runs -/

namespace Session

theorem logger_ofActions (setup : Logger.Setup) (sink : Sink) (actions : List Action) :
    (ofActions setup sink actions).1.logger = (Logger.build setup).1 :=
  run_logger ..

theorem step_verbose_shown (s : Session) (thread : Thread) {name : String} (m : Message)
    (h : s.logger.verbosity.showsNamed name = true) :
    s.step (.call thread (.verbose name m)) = s.step (.call thread (.info m)) := by
  have hcall (view : SinkView) (p : Progress) :
      s.logger.call view p (.verbose name m) = s.logger.call view p (.info m) := if_pos h
  simp only [step, hcall]

theorem step_verbose_not_shown (s : Session) (thread : Thread) {name : String} (m : Message)
    (h : s.logger.verbosity.showsNamed name = false) :
    (s.step (.call thread (.verbose name m))).2 = {} := by
  have hcall (view : SinkView) (p : Progress) :
      s.logger.call view p (.verbose name m) = { progress := p } :=
    if_neg (ne_true_of_eq_false h)
  simp only [step, hcall]
  rfl

theorem alike_nothing {setup : Logger.Setup} (sink : Sink) (h : setup.verbosity = .nothing) :
    (start setup sink).1.Alike (start { setup with verbose := some "false" } sink).1 where
  logger := by
    have hfalse : (Verbosity.read (some "false")).1 = .nothing := by decide +kernel
    show Logger.mk setup.useColor setup.batchMode setup.lead setup.palette setup.verbosity =
      .mk setup.useColor setup.batchMode setup.lead setup.palette (Verbosity.read (some "false")).1
    rw [h, hfalse]
  displays := rfl
  sink := (Sink.Agrees.settled sink _).trans (Sink.Agrees.settled sink _).symm

/- With warnings nothing is shown, so from there on the logger is one that was asked for nothing. -/
theorem deliveries_of_warnings (setup : Logger.Setup) (sink : Sink) (actions : List Action)
    (h : setup.warnings ≠ []) :
    (ofActions setup sink actions).2.deliveries =
      (setup.warnings.flatMap fun w => sink.deliver .warn w) ++
        (ofActions { setup with verbose := some "false" } sink actions).2.deliveries := by
  have halike := alike_nothing sink (Verbosity.read_of_warnings h)
  have hsilent : (start { setup with verbose := some "false" } sink).2.deliveries = [] := by
    have hnone : (Verbosity.read (some "false")).2 = [] := by decide +kernel
    rw [start_deliveries, Logger.Setup.warnings, hnone]
    rfl
  rw [deliveries_ofActions, deliveries_ofActions, hsilent, List.nil_append, start_deliveries,
    halike.run]

/-- Groups fail closed, and never in silence. What a specification shows, and what it is warned
about, is as said there; the warnings are written when the logger is built, and only then; and a
verbose call of a group is the info call of its message if the group is shown, and does nothing
otherwise. -/
theorem groups_fail_closed (setup : Logger.Setup) (sink : Sink) (actions : List Action) :
    Verbosity.FailsClosed setup.verbose setup.verbosity setup.warnings ∧
    (start setup sink).2.deliveries = (setup.warnings.flatMap fun w => sink.deliver .warn w) ∧
    (setup.warnings ≠ [] →
      (ofActions setup sink actions).2.deliveries =
        (setup.warnings.flatMap fun w => sink.deliver .warn w) ++
          (ofActions { setup with verbose := some "false" } sink actions).2.deliveries) ∧
    ∀ thread name c m, Category.ofName? name = some c →
      (setup.verbosity.shows c = true →
        (ofActions setup sink actions).1.step (.call thread (.verbose name m)) =
          (ofActions setup sink actions).1.step (.call thread (.info m))) ∧
      (setup.verbosity.shows c = false →
        ((ofActions setup sink actions).1.step (.call thread (.verbose name m))).2 = {}) := by
  refine ⟨Verbosity.read_failsClosed _, start_deliveries setup sink,
    deliveries_of_warnings setup sink actions, ?_⟩
  intro thread name c m hname
  have hnow : (ofActions setup sink actions).1.logger.verbosity.showsNamed name =
      setup.verbosity.shows c := by
    rw [logger_ofActions]
    exact Verbosity.showsNamed_of_ofName? _ hname
  exact ⟨fun h => step_verbose_shown _ thread m (hnow.trans h),
    fun h => step_verbose_not_shown _ thread m (hnow.trans h)⟩

/- A list with a misspelt name shows nothing, also not the group that it names; without the slip
that group is shown and the other one is not. -/
theorem groups_fail_closed_misspelt :
    (({ verbose := some "Build, apy" } : Logger.Setup).warnings ≠ [] ∧
      (ofActions { verbose := some "Build, apy" } (.recording false true)
        [.call .main (.verbose "build" ⟨"hello", []⟩)]).2.deliveries =
      (({ verbose := some "Build, apy" } : Logger.Setup).warnings.flatMap fun w =>
          (Sink.recording false true).deliver .warn w) ++
        (ofActions { verbose := some "false" } (.recording false true)
          [.call .main (.verbose "build" ⟨"hello", []⟩)]).2.deliveries) ∧
    (Category.ofName? " BUILD" = some .build ∧
      ({ verbose := some "Build" } : Logger.Setup).verbosity.shows .build = true ∧
      (ofActions { verbose := some "Build" } (.recording false true) []).1.step
          (.call .main (.verbose " BUILD" ⟨"hello", []⟩)) =
        (ofActions { verbose := some "Build" } (.recording false true) []).1.step
          (.call .main (.info ⟨"hello", []⟩))) ∧
    (Category.ofName? "api" = some .api ∧
      ({ verbose := some "Build" } : Logger.Setup).verbosity.shows .api = false ∧
      ((ofActions { verbose := some "Build" } (.recording false true) []).1.step
          (.call .main (.verbose "api" ⟨"hello", []⟩))).2 = {}) := by
  have hslip : ({ verbose := some "Build, apy" } : Logger.Setup).warnings ≠ [] := by
    decide +kernel
  have hbuild : Category.ofName? " BUILD" = some .build := by decide +kernel
  have hapi : Category.ofName? "api" = some .api := by decide +kernel
  have hshown : ({ verbose := some "Build" } : Logger.Setup).verbosity.shows .build = true := by
    decide +kernel
  have hhidden : ({ verbose := some "Build" } : Logger.Setup).verbosity.shows .api = false := by
    decide +kernel
  obtain ⟨-, -, hmisspelt, -⟩ := groups_fail_closed { verbose := some "Build, apy" }
    (.recording false true) [.call .main (.verbose "build" ⟨"hello", []⟩)]
  obtain ⟨-, -, -, hcalls⟩ := groups_fail_closed { verbose := some "Build" }
    (.recording false true) []
  have hinfo := (hcalls .main " BUILD" .build ⟨"hello", []⟩ hbuild).1 hshown
  have hnothing := (hcalls .main "api" .api ⟨"hello", []⟩ hapi).2 hhidden
  exact ⟨⟨hslip, hmisspelt hslip⟩, ⟨hbuild, hshown, hinfo⟩, ⟨hapi, hhidden, hnothing⟩⟩

end Session

end MarkupLog
