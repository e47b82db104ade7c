import MarkupLog.Cli.Invocation

/-!
# Operands

Any texts can be given to a command as its operands: those that look like options stand behind two
dashes. The options of the program in front of a command are read as they are without one.
-/

namespace MarkupLog.Cli

variable {φ ν : Type} {forms : Forms φ ν} {word : String} {words operands options : List String}

/-- Words that give a command these operands and no options. -/
inductive Gives : List String → List String → Prop
  | nil : Gives [] []
  | operand {word : String} {words operands : List String} (hword : isOption word = false)
      (h : Gives words operands) : Gives (word :: words) (word :: operands)
  | behind (operands : List String) : Gives ("--" :: operands) operands

/-- The words that give a text as the only operand. -/
def asOperand (text : String) : List String :=
  if isOption text then ["--", text] else [text]

theorem gives_asOperand (text : String) : Gives (asOperand text) [text] := by
  unfold asOperand
  cases hoption : isOption text with
  | true => exact .behind [text]
  | false => exact .operand hoption .nil

/-! ### Checked words -/

theorem readChecked_ok_iff [DecidableEq φ] [DecidableEq ν] {helpKey : φ}
    {check : ν → String → Option UsageFault} {p : Parsed φ ν} :
    readChecked forms helpKey check words = .ok p ↔
      parse forms words = .ok p ∧ p.has helpKey = false ∧ firstFault check p = none := by
  unfold readChecked
  constructor
  · intro h
    cases hparse : parse forms words with
    | error e =>
      rw [hparse] at h
      cases h
    | ok q =>
      simp only [hparse] at h
      cases hhelp : q.has helpKey with
      | true =>
        rw [hhelp, if_pos rfl] at h
        cases h
      | false =>
        rw [hhelp, if_neg Bool.false_ne_true] at h
        cases hfault : firstFault check q with
        | some f =>
          rw [hfault] at h
          cases h
        | none =>
          rw [hfault] at h
          cases h
          exact ⟨rfl, hhelp, hfault⟩
  · rintro ⟨hparse, hhelp, hfault⟩
    simp only [hparse, hhelp, hfault, Bool.false_eq_true, if_false]

/-! ### Words of a command -/

theorem ne_dashes_of_not_option (h : isOption word = false) : word ≠ "--" := by
  rintro rfl
  exact absurd h (by decide)

theorem parse_gives (hmixed : forms.mixed = true) (h : Gives words operands) :
    parse forms words = .ok ⟨[], operands⟩ := by
  induction h with
  | nil => rw [parse]
  | operand hword _ ih =>
    rw [parse, if_neg (ne_dashes_of_not_option hword), hword, if_neg Bool.false_ne_true,
      if_pos hmixed, ih]
    rfl
  | behind operands => rw [parse, if_pos rfl]

theorem readOperands_gives (h : Gives words operands) : readOperands words = .ok operands := by
  have hread : readChecked helpForms .help (fun _ _ => none) words = .ok ⟨[], operands⟩ :=
    readChecked_ok_iff.mpr ⟨parse_gives rfl h, rfl, rfl⟩
  unfold readOperands
  rw [hread]
  rfl

/-- Asks for an info line with a lead of its own. -/
def leadRequest (lead message : String) (args : List String) : LogRequest :=
  { channel := none
    category := none
    groups := none
    lead := some lead
    debugMode := false
    message
    args }

theorem read_leadRequest {message : String} {args : List String} (h : Gives words (message :: args))
    (lead : String) :
    LogRequest.read ("--prefix" :: lead :: words) = .ok (leadRequest lead message args) := by
  have hoption : readOption logForms "--prefix" (some lead) = .ok ([.value .lead lead], true) := rfl
  have hwords : parse logForms words = .ok ⟨[], message :: args⟩ := parse_gives rfl h
  have hparse : parse logForms ("--prefix" :: lead :: words) =
      .ok ⟨[.value .lead lead], message :: args⟩ := by
    rw [parse, if_neg (by decide), if_pos (by decide), List.head?_cons, hoption]
    simp only [if_true, List.drop_succ_cons, List.drop_zero, hwords]
    rfl
  have hread : readChecked logForms .help logFault ("--prefix" :: lead :: words) =
      .ok ⟨[.value .lead lead], message :: args⟩ :=
    readChecked_ok_iff.mpr ⟨hparse, rfl, rfl⟩
  unfold LogRequest.read
  rw [hread]
  rfl

/-! ### Options in front of a command -/

theorem map_false_eq_ok {α ε : Type} {x : Except ε α} {a : α} {b : Bool}
    (h : (x.map fun found => (found, false)) = .ok (a, b)) : b = false := by
  cases x with
  | error e => cases h
  | ok found =>
    cases h
    rfl

/- A word that is read as an option without a word behind it takes none. -/
theorem readOption_last {found : List (Found φ ν)} {takesNext : Bool}
    (h : readOption forms word none = .ok (found, takesNext)) (next : Option String) :
    readOption forms word next = .ok (found, takesNext) ∧ takesNext = false := by
  cases hsplit : splitEquals word with
  | mk name attached =>
    cases hvalue : forms.values.find? fun f => f.name = name with
    | some form =>
      simp only [readOption, hsplit, hvalue] at h ⊢
      cases attached with
      | some text =>
        cases h
        exact ⟨rfl, rfl⟩
      | none => cases h
    | none =>
      cases hflag : forms.flags.find? fun f => f.name = name with
      | some form =>
        simp only [readOption, hsplit, hvalue, hflag] at h ⊢
        cases attached with
        | some text => cases h
        | none =>
          cases h
          exact ⟨rfl, rfl⟩
      | none =>
        simp only [readOption, hsplit, hvalue, hflag] at h ⊢
        cases hlong : hasLongName word with
        | true =>
          rw [hlong] at h
          cases h
        | false =>
          rw [hlong] at h
          exact ⟨h, map_false_eq_ok h⟩

theorem readOption_append {rest : List String} {found : List (Found φ ν)} {takesNext : Bool}
    (h : readOption forms word rest.head? = .ok (found, takesNext)) (behind : List String) :
    readOption forms word (rest ++ behind).head? = .ok (found, takesNext) ∧
      (if takesNext then (rest ++ behind).drop 1 else rest ++ behind) =
        (if takesNext then rest.drop 1 else rest) ++ behind := by
  cases rest with
  | nil =>
    obtain ⟨hread, rfl⟩ := readOption_last h behind.head?
    exact ⟨hread, rfl⟩
  | cons next rest =>
    refine ⟨h, ?_⟩
    cases takesNext <;> rfl

/- By induction on the options: none of them is an operand, so the name is the first. -/
theorem parse_append_operand (hmixed : forms.mixed = false) {found : List (Found φ ν)}
    (h : parse forms options = .ok ⟨found, []⟩) {name : String} (hname : isOption name = false)
    (words : List String) :
    parse forms (options ++ name :: words) = .ok ⟨found, name :: words⟩ := by
  have hmixed' : ¬forms.mixed = true := by rw [hmixed]; exact Bool.false_ne_true
  induction options using parse.induct forms generalizing found with
  | case1 =>
    rw [parse] at h
    cases h
    rw [List.nil_append, parse, if_neg (ne_dashes_of_not_option hname), hname,
      if_neg Bool.false_ne_true, if_neg hmixed']
  | case2 rest =>
    rw [parse, if_pos rfl] at h
    cases h
    rw [List.cons_append, parse, if_pos rfl, List.nil_append]
  | case3 word rest hend hoption e hread =>
    rw [parse, if_neg hend, if_pos hoption, hread] at h
    cases h
  | case4 word rest hend hoption first takesNext hread ih =>
    obtain ⟨hlonger, htail⟩ := readOption_append hread (name :: words)
    rw [parse, if_neg hend, if_pos hoption, hread] at h
    rw [List.cons_append, parse, if_neg hend, if_pos hoption, hlonger]
    simp only [dite_eq_ite] at ih
    simp only [htail] at h ⊢
    cases hrest : parse forms (if takesNext then rest.drop 1 else rest) with
    | error e =>
      rw [hrest] at h
      cases h
    | ok p =>
      obtain ⟨more, operands⟩ := p
      rw [hrest] at h
      cases h
      rw [ih hrest]
      rfl
  | case5 word rest hend hoption hmixed ih => exact absurd hmixed hmixed'
  | case6 word rest hend hoption _ =>
    rw [parse, if_neg hend, if_neg hoption, if_neg hmixed'] at h
    cases h

theorem isOption_command (c : Command) : isOption c.name = false := by
  cases c <;> decide

theorem ofName?_command (c : Command) : Command.ofName? c.name = some c := by
  cases c <;> rfl

theorem readCommand_none {fs : FileSystem} (h : readCommand fs words = .ok none) : words = [] := by
  cases words with
  | nil => rfl
  | cons name words =>
    simp only [readCommand] at h
    cases hname : Command.ofName? name with
    | some c =>
      rw [hname] at h
      cases h
    | none =>
      rw [hname] at h
      cases hread : readProgram fs (name :: words) with
      | error r =>
        rw [hread] at h
        cases h
      | ok p =>
        rw [hread] at h
        cases h

theorem readProgram_append_operand {fs : FileSystem}
    {found : List (Found ProgramFlag ProgramValue)}
    (h : readProgram fs options = .ok ⟨found, []⟩) {name : String} (hname : isOption name = false)
    (words : List String) :
    readProgram fs (options ++ name :: words) = .ok ⟨found, name :: words⟩ := by
  obtain ⟨hparse, hhelp, hfault⟩ := readChecked_ok_iff.mp h
  exact readChecked_ok_iff.mpr ⟨parse_append_operand rfl hparse hname words, hhelp, hfault⟩

/-- Options in front of a command are read as they are without one. -/
theorem read_options_command {fs : FileSystem} {o : ProgramOptions}
    (h : Invocation.read fs options = .ok ⟨o, none⟩) (c : Command) (words : List String) :
    Invocation.read fs (options ++ c.name :: words) = .ok ⟨o, some (c, words)⟩ := by
  unfold Invocation.read at h ⊢
  cases hread : readProgram fs options with
  | error r =>
    rw [hread] at h
    cases h
  | ok p =>
    obtain ⟨found, operands⟩ := p
    rw [hread] at h
    cases hcommand : readCommand fs operands with
    | error r =>
      simp only [hcommand] at h
      cases h
    | ok command =>
      simp only [hcommand] at h
      cases h
      obtain rfl := readCommand_none hcommand
      rw [readProgram_append_operand hread (isOption_command c)]
      simp only [readCommand, ofName?_command]
      rfl

end MarkupLog.Cli
