import MarkupLog.Environment

/-!
# Directives of a message template

A template is literal text with directives. A directive opens with a percent sign and names, in this
order: flags, a width, a precision, a length letter without meaning, and the letter of a conversion.
A star in place of a width or precision takes it from the arguments. Reading a template never
fails: whatever breaks the form of a directive becomes its ending, and is reported only when filling
the template gets there.
-/

namespace MarkupLog.Template

/-! ### Faults -/

inductive Fault
  /-- A directive that names its argument. -/
  | mapping
  /-- The template ends inside a directive. -/
  | incomplete
  | widthTooBig
  | precisionTooBig
  /-- A letter that is no conversion, with its place in the template. -/
  | unsupported (letter : Char) (index : Nat)
  | missingArgument
  | surplusArguments
  | starNotInteger
  | starWidthRange
  | starPrecisionRange
  | precisionRange
  /-- A conversion to an integer got a value of another type. -/
  | notReal (letter : Char) (type : String)
  /-- A conversion to a power-of-two base got a value of another type. -/
  | notInteger (letter : Char) (type : String)
  /-- A floating-point conversion got a value of another type. -/
  | notNumber (type : String)
  | notCharacter
  | nanToInteger
  | infinityToInteger
  | integerToFloat
  | characterRange
  /-- An integer with more decimal digits than a text may have. -/
  | integerTooLong
  deriving Repr, DecidableEq

inductive FaultClass
  | type
  | value
  | overflow
  deriving Repr, DecidableEq

namespace Fault

def kind : Fault → FaultClass
  | .incomplete | .widthTooBig | .precisionTooBig | .unsupported .. | .nanToInteger
  | .integerTooLong => .value
  | .starWidthRange | .starPrecisionRange | .precisionRange | .infinityToInteger
  | .integerToFloat | .characterRange => .overflow
  | _ => .type

def shownLetter (c : Char) : Char :=
  if 31 ≤ c.toNat ∧ c.toNat ≤ 126 then c else '?'

def message : Fault → String
  | .mapping => "format requires a mapping"
  | .incomplete => "incomplete format"
  | .widthTooBig => "width too big"
  | .precisionTooBig => "precision too big"
  | .unsupported letter index =>
    "unsupported format character '" ++ String.singleton (shownLetter letter) ++ "' (0x"
      ++ String.ofList (Nat.toDigits 16 letter.toNat) ++ ") at index " ++ toString index
  | .missingArgument => "not enough arguments for format string"
  | .surplusArguments => "not all arguments converted during string formatting"
  | .starNotInteger => "* wants int"
  | .starWidthRange => "Python int too large to convert to C ssize_t"
  | .starPrecisionRange => "Python int too large to convert to C int"
  | .precisionRange => "precision too large"
  | .notReal letter type =>
    "%" ++ String.singleton letter ++ " format: a real number is required, not " ++ type
  | .notInteger letter type =>
    "%" ++ String.singleton letter ++ " format: an integer is required, not " ++ type
  | .notNumber type => "must be real number, not " ++ type
  | .notCharacter => "%c requires int or char"
  | .nanToInteger => "cannot convert float NaN to integer"
  | .infinityToInteger => "cannot convert float infinity to integer"
  | .integerToFloat => "int too large to convert to float"
  | .characterRange => "%c arg not in range(0x110000)"
  | .integerTooLong =>
    "Exceeds the limit (" ++ toString Environment.maxDigits
      ++ " digits) for integer string conversion; use sys.set_int_max_str_digits() to increase the limit"

end Fault

/-! ### Directives -/

structure Flags where
  left : Bool := false
  plus : Bool := false
  blank : Bool := false
  alternate : Bool := false
  zero : Bool := false
  deriving Repr, DecidableEq

inductive Measure
  | absent
  | given (n : Nat)
  | star
  deriving Repr, DecidableEq

/-- How a directive ends: with the letter of a conversion at a place of the template, or with a
fault of its form. -/
inductive Ending
  | letter (c : Char) (index : Nat)
  | fault (f : Fault)
  deriving Repr, DecidableEq

structure Directive where
  flags : Flags := {}
  width : Measure := .absent
  precision : Measure := .absent
  ending : Ending
  deriving Repr, DecidableEq

/-- A piece of a template. A doubled percent sign is a literal one. -/
inductive Piece
  | literal (c : Char)
  | directive (d : Directive)
  deriving Repr, DecidableEq

/-! ### Reading -/

def Flags.add? (f : Flags) : Char → Option Flags
  | '-' => some { f with left := true }
  | '+' => some { f with plus := true }
  | ' ' => some { f with blank := true }
  | '#' => some { f with alternate := true }
  | '0' => some { f with zero := true }
  | _ => none

def readFlags (f : Flags) : List Char → Flags × List Char
  | [] => (f, [])
  | c :: cs =>
    match f.add? c with
    | some f' => readFlags f' cs
    | none => (f, c :: cs)

/-- Reads digits, starting from the number read so far; `none` when the number passes `limit`. -/
def readNumber (limit acc : Nat) : List Char → Option (Nat × List Char)
  | [] => some (acc, [])
  | c :: cs =>
    if c.isDigit then
      let acc' := 10 * acc + (c.toNat - 48)
      if limit < acc' then none else readNumber limit acc' cs
    else some (acc, c :: cs)

/-- Reads a star, or digits, or nothing. `missing` is what no digits at all mean. -/
def readMeasure (limit : Nat) (missing : Measure) (cs : List Char) : Option (Measure × List Char) :=
  match cs with
  | '*' :: rest => some (.star, rest)
  | c :: _ =>
    if c.isDigit then (readNumber limit 0 cs).map fun (n, rest) => (.given n, rest)
    else some (missing, cs)
  | [] => some (missing, [])

def maxWidth : Nat := 0x7fffffffffffffff

def maxPrecision : Nat := 0x7fffffff

def skipLength : List Char → List Char
  | 'h' :: cs | 'l' :: cs | 'L' :: cs => cs
  | cs => cs

/-- Reads the precision: a point, then a star, digits, or nothing, which means zero. -/
def readPrecision : List Char → Option (Measure × List Char)
  | '.' :: cs => readMeasure maxPrecision (.given 0) cs
  | cs => some (.absent, cs)

def readLetter (index : Nat → Nat) (build : Ending → Directive) (cs : List Char) :
    Directive × List Char :=
  match skipLength cs with
  | [] => (build (.fault .incomplete), [])
  | c :: rest => (build (.letter c (index (rest.length + 1))), rest)

/-- Reads the directive whose characters after the percent sign are given, with what follows it.
`index` finds the place of a character in the template from the number of characters left. -/
def readDirective (index : Nat → Nat) (cs : List Char) : Directive × List Char :=
  match cs with
  | '(' :: _ => ({ ending := .fault .mapping }, [])
  | _ =>
    let (flags, cs) := readFlags {} cs
    match readMeasure maxWidth .absent cs with
    | none => ({ flags, ending := .fault .widthTooBig }, [])
    | some (width, cs) =>
      match readPrecision cs with
      | none => ({ flags, width, ending := .fault .precisionTooBig }, [])
      | some (precision, cs) =>
        readLetter index (fun ending => { flags, width, precision, ending }) cs

/-! ### Reading makes progress -/

theorem length_readFlags_le (f : Flags) (cs : List Char) :
    (readFlags f cs).2.length ≤ cs.length := by
  induction cs generalizing f with
  | nil => simp [readFlags]
  | cons c cs ih =>
    unfold readFlags
    split
    · exact Nat.le_succ_of_le (ih _)
    · exact Nat.le_refl _

theorem length_readNumber_le {limit acc : Nat} {cs : List Char} {r : Nat × List Char}
    (h : readNumber limit acc cs = some r) : r.2.length ≤ cs.length := by
  induction cs generalizing acc with
  | nil => simp only [readNumber, Option.some.injEq] at h; simp [← h]
  | cons c cs ih =>
    unfold readNumber at h
    split at h
    · dsimp only at h
      split at h
      · cases h
      · exact Nat.le_succ_of_le (ih h)
    · cases h; exact Nat.le_refl _

theorem length_readMeasure_le {limit : Nat} {missing : Measure} {cs : List Char}
    {r : Measure × List Char} (h : readMeasure limit missing cs = some r) :
    r.2.length ≤ cs.length := by
  unfold readMeasure at h
  split at h
  · cases h; simp
  · split at h
    · obtain ⟨p, hp, rfl⟩ := Option.map_eq_some_iff.1 h
      exact length_readNumber_le hp
    · cases h; exact Nat.le_refl _
  · cases h; simp

theorem length_readPrecision_le {cs : List Char} {r : Measure × List Char}
    (h : readPrecision cs = some r) : r.2.length ≤ cs.length := by
  unfold readPrecision at h
  split at h
  · exact Nat.le_succ_of_le (length_readMeasure_le h)
  · cases h; exact Nat.le_refl _

theorem length_skipLength_le (cs : List Char) : (skipLength cs).length ≤ cs.length := by
  unfold skipLength
  split <;> simp

theorem length_readLetter_le (index : Nat → Nat) (build : Ending → Directive) (cs : List Char) :
    (readLetter index build cs).2.length ≤ cs.length := by
  have h := length_skipLength_le cs
  unfold readLetter
  split
  · simp
  · rename_i c rest hs
    rw [hs] at h
    exact Nat.le_of_succ_le h

theorem length_readDirective_le (index : Nat → Nat) (cs : List Char) :
    (readDirective index cs).2.length ≤ cs.length := by
  unfold readDirective
  split
  · simp
  · have hf := length_readFlags_le {} cs
    dsimp only
    split
    · simp
    · rename_i hm
      have hm := length_readMeasure_le hm
      split
      · simp
      · rename_i hp
        have hp := length_readPrecision_le hp
        exact Nat.le_trans (length_readLetter_le _ _ _) (Nat.le_trans hp (Nat.le_trans hm hf))

/-- The pieces of the last `cs.length` characters of a template of `total` characters. -/
def readPieces (total : Nat) (cs : List Char) : List Piece :=
  match cs with
  | [] => []
  | '%' :: '%' :: rest => .literal '%' :: readPieces total rest
  | '%' :: rest =>
    have := length_readDirective_le (total - ·) rest
    let d := readDirective (total - ·) rest
    .directive d.1 :: readPieces total d.2
  | c :: rest => .literal c :: readPieces total rest
termination_by cs.length

def read (template : String) : List Piece :=
  readPieces template.toList.length template.toList

end MarkupLog.Template
