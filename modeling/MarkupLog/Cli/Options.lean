import MarkupLog.Text.Split

/-!
# Options

The words of a command line are options and operands. A flag stands alone, and flags with a letter
can be joined behind one dash; other options take a value, behind an equals sign or as the next
word. Two dashes end the options. Reading stops at the first option that is wrong.
-/

namespace MarkupLog.Cli

/-- A flag: its name with two dashes, and perhaps a letter. -/
structure FlagForm (φ : Type) where
  key : φ
  name : String
  letter : Option Char := none

/-- An option with a value: its name with two dashes. -/
structure ValueForm (ν : Type) where
  key : ν
  name : String

/-- The options of a command. Where options and operands mix, an operand does not end the
options. -/
structure Forms (φ ν : Type) where
  flags : List (FlagForm φ)
  values : List (ValueForm ν)
  mixed : Bool

inductive Found (φ ν : Type)
  | flag (key : φ)
  | value (key : ν) (text : String)
  deriving Repr, DecidableEq

inductive OptionFault
  | unknown (name : String)
  | needsValue (name : String)
  | takesNoValue (name : String)
  deriving Repr, DecidableEq

/-- The options of a command line in their order, and its operands. -/
structure Parsed (φ ν : Type) where
  found : List (Found φ ν)
  operands : List String
  deriving Repr, DecidableEq

/-! ### Reading -/

def isOption (word : String) : Bool :=
  match word.toList with
  | '-' :: _ :: _ => true
  | _ => false

/-- The test for a word with the name of an option rather than letters. -/
def hasLongName (word : String) : Bool :=
  ['-', '-'].isPrefixOf word.toList

def splitEquals (word : String) : String × Option String :=
  let cs := word.toList
  match cs.dropWhile (· ≠ '=') with
  | [] => (word, none)
  | _ :: value => (String.ofList (cs.takeWhile (· ≠ '=')), some (String.ofList value))

def readLetters {φ ν : Type} (forms : Forms φ ν) :
    List Char → Except OptionFault (List (Found φ ν))
  | [] => .ok []
  | c :: rest =>
    match forms.flags.find? fun f => f.letter = some c with
    | none => .error (.unknown (String.ofList ['-', c]))
    | some f => (readLetters forms rest).map (.flag f.key :: ·)

/-- A word that is an option, with the number of words after it that it takes. -/
def readOption {φ ν : Type} (forms : Forms φ ν) (word : String) (next : Option String) :
    Except OptionFault (List (Found φ ν) × Bool) :=
  let (name, attached) := splitEquals word
  match forms.values.find? (fun f => f.name = name), forms.flags.find? (fun f => f.name = name) with
  | some form, _ =>
    match attached, next with
    | some text, _ => .ok ([.value form.key text], false)
    | none, some text => .ok ([.value form.key text], true)
    | none, none => .error (.needsValue name)
  | none, some form =>
    match attached with
    | some _ => .error (.takesNoValue name)
    | none => .ok ([.flag form.key], false)
  | none, none =>
    if hasLongName word then .error (.unknown name)
    else (readLetters forms (word.toList.drop 1)).map fun found => (found, false)

def parse {φ ν : Type} (forms : Forms φ ν) (words : List String) :
    Except OptionFault (Parsed φ ν) :=
  match words with
  | [] => .ok ⟨[], []⟩
  | word :: rest =>
    if word = "--" then .ok ⟨[], rest⟩
    else if isOption word then
      match readOption forms word rest.head? with
      | .error e => .error e
      | .ok (found, takesNext) =>
        (parse forms (if takesNext then rest.drop 1 else rest)).map fun p =>
          { p with found := found ++ p.found }
    else if forms.mixed then
      (parse forms rest).map fun p => { p with operands := word :: p.operands }
    else .ok ⟨[], word :: rest⟩
termination_by words.length
decreasing_by
  · split <;> simp only [List.length_drop, List.length_cons] <;> omega
  · simp only [List.length_cons]; omega

/-! ### Queries -/

namespace Parsed

variable {φ ν : Type} [DecidableEq φ] [DecidableEq ν]

def count (p : Parsed φ ν) (key : φ) : Nat :=
  p.found.countP fun
    | .flag k => k = key
    | .value .. => false

def has (p : Parsed φ ν) (key : φ) : Bool :=
  p.count key ≠ 0

/-- The values that were found, in their order. -/
def values (p : Parsed φ ν) : List (ν × String) :=
  p.found.filterMap fun
    | .flag _ => none
    | .value k text => some (k, text)

/-- The value of an option; the last one counts. -/
def value? (p : Parsed φ ν) (key : ν) : Option String :=
  p.values.reverse.lookup key

/-- The options with a value, in the order in which they were first found. -/
def valueKeys (p : Parsed φ ν) : List ν :=
  (p.values.map Prod.fst).eraseDups

end Parsed

end MarkupLog.Cli
