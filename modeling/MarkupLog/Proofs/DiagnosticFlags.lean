import Mathlib.Data.List.Basic
import Mathlib.Logic.Relation
import MarkupLog.Cli.Invocation

/-!
# Flags for diagnostics

Flags for more or fewer diagnostics can stand wherever the program reads an option, alone or joined
with other letters. Two command lines that differ in such flags only are read alike: they are
refused for the same reason, or ask for the same options, command and words, but for the two counts.
-/

namespace MarkupLog.Cli

/-! ### Command lines -/

/-- The words for more or fewer diagnostics. -/
def diagnosticsWords : List String := ["--verbose", "--quiet", "-v", "-q"]

/-- The letters for more or fewer diagnostics. -/
def diagnosticsLetters : List Char := ['v', 'q']

/-- The word of some letters behind a dash. -/
def dashed (letters : List Char) : String :=
  String.ofList ('-' :: letters)

/-- The options of the program that take the next word as their value. -/
def takesNext (word : String) : Prop :=
  word = "--color" ∨ word = "--config"

/-- The second command line has one flag for diagnostics more, at a place where the program reads
its options: as a word of its own, or joined with the letters of another word. -/
inductive AddsFlag : List String → List String → Prop
  | word {flag words} (h : flag ∈ diagnosticsWords) : AddsFlag words (flag :: words)
  | letter {letter front back words} (h : letter ∈ diagnosticsLetters)
      (hletters : front ++ back ≠ []) (hshort : (front ++ back).head? ≠ some '-') :
      AddsFlag (dashed (front ++ back) :: words) (dashed (front ++ letter :: back) :: words)
  | behind {option words more} (hoption : isOption option = true) (hend : option ≠ "--")
      (halone : ¬takesNext option) (h : AddsFlag words more) :
      AddsFlag (option :: words) (option :: more)
  | behindValue {option value words more} (htakes : takesNext option) (h : AddsFlag words more) :
      AddsFlag (option :: value :: words) (option :: value :: more)

/-- The command lines differ only in their flags for diagnostics. -/
def DifferInFlags : List String → List String → Prop :=
  Relation.EqvGen AddsFlag

/-! ### What is read -/

abbrev ProgramFound := Found ProgramFlag ProgramValue

abbrev ProgramParsed := Parsed ProgramFlag ProgramValue

/-- What was found, without the flags for diagnostics. -/
def otherOptions (found : List ProgramFound) : List ProgramFound :=
  found.filter fun f => f ≠ .flag .verbose ∧ f ≠ .flag .quiet

def Parsed.bare (p : ProgramParsed) : ProgramParsed :=
  { p with found := otherOptions p.found }

theorem otherOptions_append (found more : List ProgramFound) :
    otherOptions (found ++ more) = otherOptions found ++ otherOptions more := by
  simp [otherOptions]

/-! ### Letters -/

theorem map_otherOptions_append (found : List ProgramFound)
    (result : Except OptionFault (List ProgramFound)) :
    (result.map (found ++ ·)).map otherOptions =
      (result.map otherOptions).map (otherOptions found ++ ·) := by
  cases result with
  | error e => rfl
  | ok more => simp only [Except.map, otherOptions_append]

theorem readLetters_letter {letter : Char} (h : letter ∈ diagnosticsLetters)
    (front back : List Char) :
    (readLetters programForms (front ++ letter :: back)).map otherOptions =
      (readLetters programForms (front ++ back)).map otherOptions := by
  induction front with
  | nil =>
    obtain ⟨key, hkey, hread⟩ : ∃ key, otherOptions [.flag key] = [] ∧
        readLetters programForms (letter :: back) =
          (readLetters programForms back).map ([.flag key] ++ ·) := by
      simp only [diagnosticsLetters, List.mem_cons, List.not_mem_nil, or_false] at h
      rcases h with rfl | rfl
      · exact ⟨.verbose, rfl, rfl⟩
      · exact ⟨.quiet, rfl, rfl⟩
    rw [List.nil_append, List.nil_append, hread, map_otherOptions_append, hkey]
    cases readLetters programForms back <;> rfl
  | cons c front ih =>
    simp only [List.cons_append, readLetters]
    cases programForms.flags.find? fun f => f.letter = some c with
    | none => rfl
    | some f =>
      exact (map_otherOptions_append [.flag f.key] _).trans
        ((congrArg _ ih).trans (map_otherOptions_append [.flag f.key] _).symm)

/-! ### Words -/

theorem toList_splitEquals (word : String) :
    (splitEquals word).1.toList = word.toList.takeWhile (· ≠ '=') := by
  have hparts := List.takeWhile_append_dropWhile (p := (· ≠ '=')) (l := word.toList)
  cases hbehind : word.toList.dropWhile (· ≠ '=') with
  | nil =>
    rw [hbehind, List.append_nil] at hparts
    simp only [splitEquals, hbehind, hparts]
  | cons c value => simp only [splitEquals, hbehind, String.toList_ofList]

theorem splitEquals_none {word name : String} (h : splitEquals word = (name, none)) :
    name = word := by
  unfold splitEquals at h
  cases hbehind : word.toList.dropWhile (· ≠ '=') with
  | nil =>
    simp only [hbehind] at h
    exact (congrArg Prod.fst h).symm
  | cons c value =>
    simp only [hbehind] at h
    exact nomatch congrArg Prod.snd h

theorem hasLongName_of_splitEquals {word : String}
    (h : hasLongName (splitEquals word).1 = true) : hasLongName word = true := by
  unfold hasLongName at h ⊢
  rw [List.isPrefixOf_iff_prefix] at h ⊢
  rw [toList_splitEquals] at h
  exact h.trans (List.takeWhile_prefix _)

theorem hasLongName_programForms :
    (∀ form ∈ programForms.flags, hasLongName form.name = true) ∧
      ∀ form ∈ programForms.values, hasLongName form.name = true := by
  decide

theorem readOption_short {word : String} (h : hasLongName word = false) (next : Option String) :
    readOption programForms word next =
      (readLetters programForms (word.toList.drop 1)).map fun found => (found, false) := by
  have hname {name : String} (hlong : hasLongName name = true) : name ≠ (splitEquals word).1 := by
    rintro rfl
    exact nomatch h.symm.trans (hasLongName_of_splitEquals hlong)
  have hflags : programForms.flags.find? (fun f => f.name = (splitEquals word).1) = none :=
    List.find?_eq_none.mpr fun form hform => by
      simpa using hname (hasLongName_programForms.1 form hform)
  have hvalues : programForms.values.find? (fun f => f.name = (splitEquals word).1) = none :=
    List.find?_eq_none.mpr fun form hform => by
      simpa using hname (hasLongName_programForms.2 form hform)
  simp only [readOption, hflags, hvalues, h, Bool.false_eq_true, if_false]

/-- What a word is read as does not depend on the next one, unless it takes that as its value. -/
theorem readOption_alone {word : String} (h : ¬takesNext word) :
    ∃ result : Except OptionFault (List ProgramFound), ∀ next,
      readOption programForms word next = result.map fun found => (found, false) := by
  cases hsplit : splitEquals word with
  | mk name attached =>
    cases hvalue : programForms.values.find? (fun f => f.name = name) with
    | some form =>
      cases attached with
      | some text => exact ⟨.ok [.value form.key text], fun next => by
          simp only [readOption, hsplit, hvalue]; rfl⟩
      | none =>
        refine absurd ?_ h
        have hform : form.name = word := by
          rw [← splitEquals_none hsplit]
          simpa using List.find?_some hvalue
        have hmem := List.mem_of_find?_eq_some hvalue
        simp only [programForms, List.mem_cons, List.not_mem_nil, or_false] at hmem
        rcases hmem with rfl | rfl
        · exact .inl hform.symm
        · exact .inr hform.symm
    | none =>
      cases hflag : programForms.flags.find? (fun f => f.name = name) with
      | some form =>
        cases attached with
        | some text => exact ⟨.error (.takesNoValue name), fun next => by
            simp only [readOption, hsplit, hvalue, hflag]; rfl⟩
        | none => exact ⟨.ok [.flag form.key], fun next => by
            simp only [readOption, hsplit, hvalue, hflag]; rfl⟩
      | none =>
        cases hlong : hasLongName word with
        | true => exact ⟨.error (.unknown name), fun next => by
            simp only [readOption, hsplit, hvalue, hflag, hlong]; rfl⟩
        | false => exact ⟨_, readOption_short hlong⟩

theorem readOption_takes {word : String} (h : takesNext word) (value : String) :
    ∃ key, readOption programForms word (some value) = .ok ([.value key value], true) := by
  rcases h with rfl | rfl
  · exact ⟨.color, rfl⟩
  · exact ⟨.config, rfl⟩

/-- The reading of a command line, without the flags for diagnostics. -/
def parseBare (words : List String) : Except OptionFault ProgramParsed :=
  (parse programForms words).map Parsed.bare

theorem parse_option {option : String} {words : List String}
    {letters : Except OptionFault (List ProgramFound)} (hoption : isOption option = true)
    (hend : option ≠ "--")
    (hread : readOption programForms option words.head? = letters.map fun found => (found, false)) :
    parseBare (option :: words) = (letters.map otherOptions).bind fun found =>
      (parseBare words).map fun p => { p with found := found ++ p.found } := by
  unfold parseBare
  rw [parse, if_neg hend, if_pos hoption, hread]
  cases letters with
  | error e => rfl
  | ok found =>
    simp only [Except.map, Except.bind, Bool.false_eq_true, if_false]
    cases parse programForms words with
    | error e => rfl
    | ok p => simp only [Parsed.bare, otherOptions_append]

theorem parse_value {option : String} (htakes : takesNext option) (value : String) :
    ∃ found, ∀ words, parseBare (option :: value :: words) =
      (parseBare words).map fun p => { p with found := found ++ p.found } := by
  obtain ⟨key, hread⟩ := readOption_takes htakes value
  have hoption : isOption option = true := by rcases htakes with rfl | rfl <;> rfl
  have hend : option ≠ "--" := by rcases htakes with rfl | rfl <;> decide
  refine ⟨otherOptions [.value key value], fun words => ?_⟩
  unfold parseBare
  rw [parse, if_neg hend, if_pos hoption, List.head?_cons, hread]
  simp only [if_true, List.drop_succ_cons, List.drop_zero]
  cases parse programForms words with
  | error e => rfl
  | ok p => simp only [Except.map, Parsed.bare, otherOptions_append]

theorem parse_word {flag : String} (h : flag ∈ diagnosticsWords) (words : List String) :
    parseBare (flag :: words) = parseBare words := by
  obtain ⟨hoption, hend, key, hkey, hread⟩ : isOption flag = true ∧ flag ≠ "--" ∧ ∃ key,
      otherOptions [.flag key] = [] ∧ readOption programForms flag words.head? =
        (Except.ok [.flag key]).map fun found => (found, false) := by
    simp only [diagnosticsWords, List.mem_cons, List.not_mem_nil, or_false] at h
    rcases h with rfl | rfl | rfl | rfl
    · exact ⟨rfl, by decide, .verbose, rfl, rfl⟩
    · exact ⟨rfl, by decide, .quiet, rfl, rfl⟩
    · exact ⟨rfl, by decide, .verbose, rfl, rfl⟩
    · exact ⟨rfl, by decide, .quiet, rfl, rfl⟩
  rw [parse_option hoption hend hread]
  simp only [Except.map, hkey, Except.bind, List.nil_append]
  cases parseBare words <;> rfl

theorem parse_dashed {c : Char} {letters : List Char} (h : c ≠ '-') (words : List String) :
    parseBare (dashed (c :: letters) :: words) =
      ((readLetters programForms (c :: letters)).map otherOptions).bind fun found =>
        (parseBare words).map fun p => { p with found := found ++ p.found } := by
  have hchars : (dashed (c :: letters)).toList = '-' :: c :: letters := String.toList_ofList
  have hshort : hasLongName (dashed (c :: letters)) = false := by
    unfold hasLongName
    rw [hchars]
    simpa [List.isPrefixOf] using h.symm
  have hoption : isOption (dashed (c :: letters)) = true := by
    unfold isOption
    rw [hchars]
    rfl
  have hend : dashed (c :: letters) ≠ "--" := by
    intro heq
    rw [heq] at hchars
    exact h (List.cons.inj (List.cons.inj hchars).2).1.symm
  refine parse_option hoption hend ?_
  rw [readOption_short hshort, hchars, List.drop_succ_cons, List.drop_zero]

theorem parse_letter {letter : Char} {front back : List Char} (h : letter ∈ diagnosticsLetters)
    (hletters : front ++ back ≠ []) (hshort : (front ++ back).head? ≠ some '-')
    (words : List String) :
    parseBare (dashed (front ++ letter :: back) :: words) =
      parseBare (dashed (front ++ back) :: words) := by
  have hletter : letter ≠ '-' := by
    rintro rfl
    exact absurd h (by decide)
  have hread := readLetters_letter h front back
  cases front with
  | nil =>
    cases back with
    | nil => exact absurd rfl hletters
    | cons c back =>
      have hc : c ≠ '-' := fun heq => hshort (congrArg some heq)
      rw [List.nil_append, List.nil_append] at hread ⊢
      rw [parse_dashed hletter, parse_dashed hc, hread]
  | cons c front =>
    have hc : c ≠ '-' := fun heq => hshort (congrArg some heq)
    rw [List.cons_append, List.cons_append] at hread ⊢
    rw [parse_dashed hc, parse_dashed hc, hread]

theorem parse_addsFlag {words more : List String} (h : AddsFlag words more) :
    parseBare words = parseBare more := by
  induction h with
  | word hflag => exact (parse_word hflag _).symm
  | letter hletter hletters hshort => exact (parse_letter hletter hletters hshort _).symm
  | behind hoption hend halone _ ih =>
    obtain ⟨result, hread⟩ := readOption_alone halone
    rw [parse_option hoption hend (hread _), parse_option hoption hend (hread _), ih]
  | behindValue htakes _ ih =>
    obtain ⟨found, hparse⟩ := parse_value htakes _
    rw [hparse, hparse, ih]

theorem parse_differInFlags {words other : List String} (h : DifferInFlags words other) :
    parseBare words = parseBare other := by
  induction h with
  | rel words more hadds => exact parse_addsFlag hadds
  | refl words => rfl
  | symm words other _ ih => exact ih.symm
  | trans words between other _ _ ih ih' => exact ih.trans ih'

/-! ### Options -/

theorem count_bare (p : ProgramParsed) (key : ProgramFlag) (hverbose : key ≠ .verbose)
    (hquiet : key ≠ .quiet) : p.bare.count key = p.count key := by
  unfold Parsed.count Parsed.bare otherOptions
  rw [List.countP_filter]
  refine List.countP_congr fun f _ => ?_
  cases f with
  | flag k => by_cases h : k = key <;> simp [h, hverbose, hquiet]
  | value k text => simp

theorem values_bare (p : ProgramParsed) : p.bare.values = p.values := by
  unfold Parsed.values Parsed.bare otherOptions
  rw [List.filterMap_filter]
  refine List.filterMap_congr fun f _ => ?_
  cases f with
  | flag k => simp
  | value k text => simp

theorem has_bare (p : ProgramParsed) (key : ProgramFlag) (hverbose : key ≠ .verbose)
    (hquiet : key ≠ .quiet) : p.bare.has key = p.has key := by
  unfold Parsed.has
  rw [count_bare p key hverbose hquiet]

theorem value?_bare (p : ProgramParsed) (key : ProgramValue) :
    p.bare.value? key = p.value? key := by
  unfold Parsed.value?
  rw [values_bare]

theorem firstFault_bare (check : ProgramValue → String → Option UsageFault) (p : ProgramParsed) :
    firstFault check p.bare = firstFault check p := by
  simp only [firstFault, Parsed.valueKeys, values_bare, value?_bare]

/-! ### Invocations -/

/-- What a command line asks for, without the counts of the flags for diagnostics. -/
def Invocation.bare (i : Invocation) : Invocation :=
  { i with options := { i.options with verbose := 0, quiet := 0 } }

theorem map_eq_map_cases {ε α β : Type} {f : α → β} {a b : Except ε α} (h : a.map f = b.map f) :
    (∃ e, a = .error e ∧ b = .error e) ∨ ∃ x y, a = .ok x ∧ b = .ok y ∧ f x = f y := by
  cases a with
  | error e =>
    cases b with
    | error e' =>
      cases h
      exact .inl ⟨e, rfl, rfl⟩
    | ok y => cases h
  | ok x =>
    cases b with
    | error e => cases h
    | ok y => exact .inr ⟨x, y, rfl, rfl, Except.ok.inj h⟩

variable {words other : List String}

theorem readProgram_congr (h : parseBare words = parseBare other) (fs : FileSystem) :
    (readProgram fs words).map Parsed.bare = (readProgram fs other).map Parsed.bare := by
  unfold readProgram readChecked
  rcases map_eq_map_cases h with ⟨e, hwords, hother⟩ | ⟨p, p', hwords, hother, hbare⟩
  · rw [hwords, hother]
  · have hhelp : p.has .help = p'.has .help := by
      rw [← has_bare p .help nofun nofun, hbare, has_bare p' .help nofun nofun]
    have hfault : firstFault (programFault fs) p = firstFault (programFault fs) p' := by
      rw [← firstFault_bare, hbare, firstFault_bare]
    simp only [hwords, hother, hhelp, hfault]
    cases p'.has .help with
    | true => rfl
    | false =>
      cases firstFault (programFault fs) p' with
      | some fault => rfl
      | none => exact congrArg Except.ok hbare

theorem ofParsed_bare (p : ProgramParsed) (command : Option (Command × List String)) :
    Invocation.bare ⟨.ofParsed p, command⟩ = Invocation.bare ⟨.ofParsed p.bare, command⟩ := by
  simp only [Invocation.bare, ProgramOptions.ofParsed, value?_bare,
    has_bare p .noColor nofun nofun]

/-- Command lines that differ only in their flags for diagnostics are refused for the same reason,
or ask for the same but for the counts of these flags. -/
theorem read_differInFlags (h : DifferInFlags words other) (fs : FileSystem) :
    (Invocation.read fs words).map Invocation.bare =
      (Invocation.read fs other).map Invocation.bare := by
  unfold Invocation.read
  rcases map_eq_map_cases (readProgram_congr (parse_differInFlags h) fs) with
    ⟨r, hwords, hother⟩ | ⟨p, p', hwords, hother, hbare⟩
  · rw [hwords, hother]
  · have hoperands : p.operands = p'.operands := by
      show p.bare.operands = p'.bare.operands
      rw [hbare]
    simp only [hwords, hother, hoperands]
    cases readCommand fs p'.operands with
    | error r => rfl
    | ok command =>
      show Except.ok (Invocation.bare _) = Except.ok (Invocation.bare _)
      rw [ofParsed_bare p, hbare, ← ofParsed_bare p']

end MarkupLog.Cli
