import Mathlib.Data.List.TakeWhile
import MarkupLog.Proofs.ExclusiveFlags
import MarkupLog.Proofs.Numerals

/-!
# The level in the environment

The environment may set the level of diagnostics by a number or by a name; any other value sets
none. A value of digits is taken for a number before it is read as one, so the reading fails where
a digit has no place value or the digits are too many. No other value fails, neither here nor in
what depends on the level.
-/

namespace MarkupLog

/-! ### Names of levels -/

namespace Level

theorem named?_eq_some_iff (s : String) (level : Int) :
    named? s = some level ↔ (s, level) ∈ table := by
  constructor
  · exact Text.mem_of_lookup
  · intro h
    have hall : ∀ p ∈ table, named? p.1 = some p.2 := by decide
    exact hall _ h

/- The names are written in capital letters of ASCII. -/
theorem capitals_of_mem_table {s : String} {level : Int} (h : (s, level) ∈ table) :
    s.toList ≠ [] ∧ ∀ c ∈ s.toList, 65 ≤ c.toNat ∧ c.toNat ≤ 90 := by
  have hall : ∀ p ∈ table, p.1.toList ≠ [] ∧
      p.1.toList.all (fun c => 65 ≤ c.toNat && c.toNat ≤ 90) = true := by
    decide
  obtain ⟨hne, hcapitals⟩ := hall _ h
  refine ⟨hne, ?_⟩
  intro c hc
  simpa using List.all_eq_true.mp hcapitals c hc

theorem upper_mem_table_iff {upper : String → String} (hupper : Text.Uppers upper) (s : String)
    (level : Int) : (upper s, level) ∈ table ↔ (Text.upper s, level) ∈ table := by
  have hascii {name : String} (h : (name, level) ∈ table) : Text.IsAscii name.toList := by
    intro c hc
    have hcapital := (capitals_of_mem_table h).2 c hc
    omega
  constructor
  · intro h
    rw [Text.uppers_upper.eq_of_ascii hupper (hascii h)]
    exact h
  · intro h
    rw [hupper.eq_of_ascii Text.uppers_upper (hascii h)]
    exact h

end Level

/-! ### Values -/

namespace Environment

/-- The value of the variable for the level, without blanks at its ends. -/
def levelText (env : Environment) : String :=
  Text.trim ((env.get? levelVariable).getD "")

/-- The text consists of digits. -/
def TakenForNumber (text : String) : Prop :=
  text ≠ "" ∧ ∀ c ∈ text.toList, Text.isDigit c = true

/-- The text consists of digits and is still no number that can be read: one of them has no place
value, or there are too many of them. -/
def Unreadable (text : String) : Prop :=
  TakenForNumber text ∧
    ((∃ c ∈ text.toList, Text.digitValue? c = none) ∨ maxDigits < text.length)

variable {text : String}

theorem TakenForNumber.toList_ne_nil (h : TakenForNumber text) : text.toList ≠ [] := by
  rw [ne_eq, String.toList_eq_nil_iff]
  exact h.1

theorem takenForNumber_of_isNumeral {n : Nat} (h : Text.IsNumeral text.toList n) :
    TakenForNumber text := by
  refine ⟨?_, h.isDigit⟩
  rintro rfl
  exact h.1 rfl

theorem TakenForNumber.upper (h : TakenForNumber text) : Text.upper text = text :=
  Text.upper_of_digits h.2

theorem takenForNumber_upper_iff :
    TakenForNumber (Text.upper text) ↔ TakenForNumber text := by
  constructor
  · intro h
    have hsame : Text.upper text = text := Text.upper_of_digits (Text.digits_of_upper h.2)
    rw [hsame] at h
    exact h
  · intro h
    rw [h.upper]
    exact h

theorem TakenForNumber.not_name (h : TakenForNumber text) (level : Int) :
    (Text.upper text, level) ∉ Level.table := by
  intro hname
  obtain ⟨hne, hcapitals⟩ := Level.capitals_of_mem_table hname
  rw [h.upper] at hne hcapitals
  obtain ⟨c, hc⟩ := List.exists_mem_of_ne_nil _ hne
  have hcapital := hcapitals c hc
  have hletter := Text.isDigit_letter hcapital.1 (by omega)
  exact nomatch (h.2 c hc).symm.trans hletter

/-! ### Reading numbers -/

/- Where all digits have a value, the first run of them is the whole text. -/
theorem digitsLevel_of_value {n : Nat} (h : Text.decimalValue? text.toList = some n) :
    digitsLevel text =
      if maxDigits < text.length then .error (.tooLong text.length) else .ok (n : Int) := by
  have hvalues : ∀ c ∈ text.toList, (Text.digitValue? c).isSome = true := by
    intro c hc
    rw [Option.isSome_iff_ne_none]
    exact Text.digitValue?_ne_none h c hc
  unfold digitsLevel
  simp only [List.takeWhile_eq_self_iff.mpr hvalues, String.length_toList, h]

theorem digitsLevel_of_no_value (h : Text.decimalValue? text.toList = none) :
    ∃ e, digitsLevel text = .error e := by
  unfold digitsLevel
  simp only [h]
  split
  · exact ⟨_, rfl⟩
  · exact ⟨_, rfl⟩

theorem digitsLevel_ok_iff (h : TakenForNumber text) (level : Int) :
    digitsLevel text = .ok level ↔
      ∃ n : Nat, Text.IsNumeral text.toList n ∧ text.length ≤ maxDigits ∧ level = n := by
  simp only [Text.isNumeral_iff h.toList_ne_nil]
  cases hvalue : Text.decimalValue? text.toList with
  | none =>
    obtain ⟨e, he⟩ := digitsLevel_of_no_value hvalue
    simp [he]
  | some n =>
    rw [digitsLevel_of_value hvalue]
    by_cases hlong : maxDigits < text.length
    · have hnot : ¬text.length ≤ maxDigits := by omega
      simp [hlong, hnot]
    · have hshort : text.length ≤ maxDigits := by omega
      simp [hlong, hshort, eq_comm]

theorem digitsLevel_error_iff :
    (∃ e, digitsLevel text = .error e) ↔
      (∃ c ∈ text.toList, Text.digitValue? c = none) ∨ maxDigits < text.length := by
  rw [← Text.decimalValue?_eq_none_iff]
  cases hvalue : Text.decimalValue? text.toList with
  | none => simp [digitsLevel_of_no_value hvalue]
  | some n =>
    rw [digitsLevel_of_value hvalue]
    by_cases hlong : maxDigits < text.length <;> simp [hlong]

/-! ### Reading levels -/

theorem level_of_taken {env : Environment} (h : TakenForNumber env.levelText) :
    env.level = (digitsLevel env.levelText).map some := by
  have hkey := takenForNumber_upper_iff.mpr h
  show levelOf _ = _
  unfold levelOf
  dsimp only
  rw [if_pos ⟨hkey.1, List.all_eq_true.mpr hkey.2⟩]
  exact congrArg (fun s => (digitsLevel s).map some) h.upper

theorem level_of_not_taken {env : Environment} (h : ¬TakenForNumber env.levelText) :
    env.level = .ok (Level.named? (Text.upper env.levelText)) := by
  show levelOf _ = _
  unfold levelOf
  dsimp only
  rw [if_neg]
  · rfl
  · rintro ⟨hne, hdigits⟩
    exact h (takenForNumber_upper_iff.mp ⟨hne, List.all_eq_true.mp hdigits⟩)

theorem level_eq_some_iff (env : Environment) (level : Int) :
    env.level = .ok (some level) ↔
      (∃ n : Nat, Text.IsNumeral env.levelText.toList n ∧ env.levelText.length ≤ maxDigits ∧
        level = n) ∨ (Text.upper env.levelText, level) ∈ Level.table := by
  by_cases h : TakenForNumber env.levelText
  · rw [level_of_taken h, or_iff_left (h.not_name level), ← digitsLevel_ok_iff h]
    cases digitsLevel env.levelText with
    | error e => exact iff_of_false nofun nofun
    | ok n => simp [Except.map]
  · have hnumber : ¬∃ n : Nat, Text.IsNumeral env.levelText.toList n ∧
        env.levelText.length ≤ maxDigits ∧ level = n := fun ⟨_, hn, _⟩ =>
      h (takenForNumber_of_isNumeral hn)
    rw [level_of_not_taken h, or_iff_right hnumber, ← Level.named?_eq_some_iff, Except.ok.injEq]

theorem level_eq_none_iff (env : Environment) :
    env.level = .ok none ↔ ¬TakenForNumber env.levelText ∧
      ∀ level, (Text.upper env.levelText, level) ∉ Level.table := by
  by_cases h : TakenForNumber env.levelText
  · rw [level_of_taken h]
    refine iff_of_false ?_ fun hnot => hnot.1 h
    cases digitsLevel env.levelText <;> simp [Except.map]
  · simp only [level_of_not_taken h, Except.ok.injEq, ← Level.named?_eq_some_iff, h,
      Option.eq_none_iff_forall_ne_some, ne_eq, not_false_eq_true, true_and]

theorem level_error_iff (env : Environment) :
    (∃ e, env.level = .error e) ↔ Unreadable env.levelText := by
  by_cases h : TakenForNumber env.levelText
  · rw [level_of_taken h, Unreadable, and_iff_right h, ← digitsLevel_error_iff]
    cases digitsLevel env.levelText <;> simp [Except.map]
  · rw [level_of_not_taken h]
    exact iff_of_false nofun fun hunreadable => h hunreadable.1

theorem level_of_unset {env : Environment} (h : env.get? levelVariable = none) :
    env.level = .ok none := by
  have hempty : levelOf "" = .ok none := by decide +kernel
  rw [level, h]
  exact hempty

end Environment

/-! ### Reporters -/

theorem Reporter.chooseLevel_error_iff (requested : Option Int) (env : Environment) :
    (∃ e, chooseLevel requested env = .error e) ↔
      requested = none ∧ Environment.Unreadable env.levelText := by
  rw [← Environment.level_error_iff]
  cases requested with
  | some level => simp [chooseLevel]
  | none => cases hlevel : env.level <;> simp [chooseLevel, hlevel, Except.map]

namespace Cli

open Environment

variable {w : World} {env : Environment} {words : List String}

/-! ### Runs -/

/- With the level left open, both flags at once would have been refused. -/
theorem oneWay_of_success {i : Invocation} (hread : Invocation.read w.files words = .ok i)
    (hlevel : w.env.level = .ok none) (hsuccess : (run w words).exitCode = .success) :
    i.options.verbose = 0 ∨ i.options.quiet = 0 := by
  by_contra hboth
  have hrun := run_of_both_open hread hlevel (by omega) (by omega)
  rw [hrun] at hsuccess
  cases hsuccess

theorem run_leveled (hdiffer : w.env.DifferInLevel env) (hunset : env.level = .ok none)
    (hsuccess : (run { w with env } words).exitCode = .success)
    (hlevel : ∃ level, w.env.level = .ok level) :
    (run w words).events = (run { w with env } words).events ∧
      (run w words).ending = (run { w with env } words).ending := by
  cases hread : Invocation.read w.files words with
  | error refusal =>
    have hrefused : run w words = run { w with env } words := run_of_refused hread hread
    rw [hrefused]
    exact ⟨rfl, rfl⟩
  | ok i =>
    have honce := oneWay_of_success (w := { w with env }) hread hunset hsuccess
    obtain ⟨r, hr⟩ := chooseReporter_ok hlevel honce
    obtain ⟨r', hr'⟩ : ∃ r', chooseReporter env i.options = pure r' :=
      chooseReporter_ok ⟨none, hunset⟩ honce
    have hother : run { w with env } words = Run.ofAct r' (body { w with env } i) :=
      run_of_reporter (w := { w with env }) hread hr'
    rw [run_of_reporter hread hr, hother, body_environment_congr hdiffer]
    exact ⟨rfl, rfl⟩

/- The run ends before it does anything. -/
theorem run_unreadable {i : Invocation} (hread : Invocation.read w.files words = .ok i)
    (h : Unreadable w.env.levelText) : (run w words).exitCode = .failure := by
  obtain ⟨e, hlevel⟩ := (level_error_iff w.env).mpr h
  rw [run_of_level_error hread hlevel]
  rfl

/-- The values that consist of digits and are no number that can be read are the only ones that
fail. Any other value is the number that its digits make, or the level of the name that it is in
upper case, or leaves the level open; it keeps no reporter from being set up, and a run that succeeds
without the variable does the same with it. -/
theorem only_unreadable_levels_fail {upper : String → String} (hupper : Text.Uppers upper)
    (w : World) :
    let text := w.env.levelText
    (∀ level, w.env.level = .ok (some level) ↔
      (∃ n : Nat, Text.IsNumeral text.toList n ∧ text.length ≤ maxDigits ∧ level = n) ∨
        (upper text, level) ∈ Level.table) ∧
    (w.env.level = .ok none ↔
      ¬TakenForNumber text ∧ ∀ level, (upper text, level) ∉ Level.table) ∧
    ((∃ e, w.env.level = .error e) ↔ Unreadable text) ∧
    (∀ requested, (∃ e, Reporter.chooseLevel requested w.env = .error e) ↔
      requested = none ∧ Unreadable text) ∧
    ∀ env words, w.env.DifferInLevel env → env.get? levelVariable = none →
      (run { w with env } words).exitCode = .success →
      ((run w words).exitCode ≠ .success ↔
        Unreadable text ∧ ∃ i, Invocation.read w.files words = .ok i) ∧
      (¬Unreadable text → (run w words).events = (run { w with env } words).events ∧
        (run w words).ending = (run { w with env } words).ending) := by
  intro text
  simp only [Level.upper_mem_table_iff hupper]
  refine ⟨level_eq_some_iff w.env, level_eq_none_iff w.env, level_error_iff w.env,
    fun requested => Reporter.chooseLevel_error_iff requested w.env, ?_⟩
  intro env words hdiffer hunset hsuccess
  have hopen : env.level = .ok none := level_of_unset hunset
  have hsame : ¬Unreadable text → (run w words).events = (run { w with env } words).events ∧
      (run w words).ending = (run { w with env } words).ending := by
    intro hreadable
    cases hlevel : w.env.level with
    | error e => exact absurd ((level_error_iff w.env).mp ⟨e, hlevel⟩) hreadable
    | ok level => exact run_leveled hdiffer hopen hsuccess ⟨level, hlevel⟩
  refine ⟨?_, hsame⟩
  constructor
  · intro hfails
    cases hread : Invocation.read w.files words with
    | error refusal =>
      have hrefused : run w words = run { w with env } words := run_of_refused hread hread
      rw [hrefused] at hfails
      exact absurd hsuccess hfails
    | ok i =>
      refine ⟨?_, i, rfl⟩
      by_contra hreadable
      exact hfails ((congrArg Ending.exitCode (hsame hreadable).2).trans hsuccess)
  · rintro ⟨hunreadable, i, hread⟩
    rw [run_unreadable hread hunreadable]
    decide

/- A dotless i is a capital I in upper case, so the value is a name. -/
theorem only_unreadable_levels_fail_dotless :
    let named : World := { env := [("EMPHLOG_LOG_LEVEL", " \u0131nfo\n")] }
    Text.Uppers Text.upper ∧
      (Environment.DifferInLevel named.env [] ∧ (run {} ["version"]).exitCode = .success) ∧
      named.env.level = .ok (some Level.info) ∧
      (run named ["version"]).events = (run {} ["version"]).events ∧
      (run named ["version"]).exitCode = .success := by
  intro named
  have hdiffer : Environment.DifferInLevel named.env [] := fun name hname =>
    if_neg (Ne.symm hname)
  have hsuccess : (run {} ["version"]).exitCode = .success := by decide +kernel
  have htext : named.env.levelText = "\u0131nfo" := by decide +kernel
  have hname : (Text.upper named.env.levelText, Level.info) ∈ Level.table := by
    rw [htext]
    decide +kernel
  obtain ⟨hsome, -, -, -, hruns⟩ := only_unreadable_levels_fail Text.uppers_upper named
  have hreadable : ¬Unreadable named.env.levelText := fun h => h.1.not_name Level.info hname
  obtain ⟨hfails, hsame⟩ := hruns [] ["version"] hdiffer rfl hsuccess
  refine ⟨Text.uppers_upper, ⟨hdiffer, hsuccess⟩, (hsome Level.info).mpr (.inr hname),
    (hsame hreadable).1, ?_⟩
  by_contra hnot
  exact hreadable (hfails.mp hnot).1

/- A superscript is a digit, but no decimal one. -/
theorem superscript_level_fails :
    let raised : World := { env := [("EMPHLOG_LOG_LEVEL", "\u00B2")] }
    raised.env.level = .error (.notDecimal "\u00B2") ∧
      Reporter.chooseLevel none raised.env = .error (.notDecimal "\u00B2") ∧
      (run raised ["version"]).exitCode = .failure ∧
      (run {} ["version"]).exitCode = .success := by
  decide +kernel

end Cli

end MarkupLog
