import MarkupLog.Template.Directive
import MarkupLog.Value

/-!
# Filling a template

The pieces of a template are filled from left to right. Each directive takes the arguments of its
stars and then the one that it converts, so how many arguments a template takes depends on its text
alone. A conversion yields a *field*: a sign, a lead such as `0x`, and a body; the width is reached
with spaces outside the field, or with zeros before the body.
-/

namespace MarkupLog.Template

open Number (Binary64)

/-! ### Fields -/

structure Field where
  sign : List Char := []
  lead : List Char := []
  body : List Char
  numeric : Bool := false
  deriving Repr, DecidableEq

def Field.text (f : Field) : List Char :=
  f.sign ++ f.lead ++ f.body

/-- A field padded to a width. Zeros pad numbers only, and never on the right. -/
def Field.padded (f : Field) (flags : Flags) (width : Nat) : List Char :=
  let gap := width - f.text.length
  if flags.left then f.text ++ List.replicate gap ' '
  else if f.numeric && flags.zero then f.sign ++ f.lead ++ List.replicate gap '0' ++ f.body
  else List.replicate gap ' ' ++ f.text

/-- The sign of a number: a minus, or what the flags ask for. -/
def signFor (flags : Flags) (negative : Bool) : List Char :=
  if negative then ['-'] else if flags.plus then ['+'] else if flags.blank then [' '] else []

/-! ### Conversions -/

def cut (precision : Option Nat) (cs : List Char) : List Char :=
  match precision with
  | none => cs
  | some n => cs.take n

/-- The field of a value's text, which the precision cuts. -/
def textField (precision : Option Nat) : Option String → Except Fault Field
  | some text => .ok { body := cut precision text.toList }
  | none => .error .integerTooLong

/-- A number read off a value, or the fault that this value gives. -/
def toInteger (letter : Char) (v : Value) : Except Fault Int :=
  match v.integer? with
  | some i => .ok i
  | none =>
    match v with
    | .float .nan => .error .nanToInteger
    | .float (.infinite _) => .error .infinityToInteger
    | .float (.finite negative m e) => .ok (Binary64.truncate negative m e)
    | v => .error (.notReal letter v.typeName)

/-- The digits of an integer in a base, with zeros in front up to the precision. -/
def integerDigits (base : Nat) (precision : Option Nat) (n : Nat) : List Char :=
  let digits := Nat.toDigits base n
  List.replicate (precision.getD 0 - digits.length) '0' ++ digits

def maxIntegerPrecision : Nat := maxPrecision - 3

/-- The field of an integer. Only in base ten does the number of its digits have a limit. -/
def integerField (flags : Flags) (lead : List Char) (upper : Bool) (base : Nat)
    (precision : Option Nat) (i : Int) : Except Fault Field :=
  if maxIntegerPrecision < precision.getD 0 then .error .precisionRange
  else if base = 10 ∧ Value.tooLong i then .error .integerTooLong
  else
    let digits := integerDigits base precision i.natAbs
    .ok { sign := signFor flags (i < 0)
          lead := if flags.alternate then lead else []
          body := if upper then digits.map Char.toUpper else digits
          numeric := true }

/-- The field of an integer in base eight or sixteen, which no other type can stand for. -/
def basedField (flags : Flags) (letter : Char) (lead : List Char) (upper : Bool) (base : Nat)
    (precision : Option Nat) (v : Value) : Except Fault Field :=
  match v.integer? with
  | some i => integerField flags lead upper base precision i
  | none => .error (.notInteger letter v.typeName)

def toFloat (v : Value) : Except Fault Binary64 :=
  match v.integer? with
  | some i =>
    match Binary64.ofInt i with
    | .infinite _ => .error .integerToFloat
    | f => .ok f
  | none =>
    match v with
    | .float f => .ok f
    | v => .error (.notNumber v.typeName)

inductive FloatLayout
  | scientific
  | fixed
  | general
  deriving Repr, DecidableEq

/-- The body of a finite floating-point number; six places unless a precision is given. -/
def floatBody (layout : FloatLayout) (upper alternate : Bool) (precision : Option Nat)
    (mantissa : Nat) (exponent : Int) : List Char :=
  let places := precision.getD 6
  let mark := if upper then 'E' else 'e'
  match layout with
  | .scientific => Number.scientificLayout mark alternate places mantissa exponent
  | .fixed => Number.fixedLayout alternate places mantissa exponent
  | .general => Number.generalLayout mark alternate places mantissa exponent

def floatField (flags : Flags) (layout : FloatLayout) (upper : Bool) (precision : Option Nat) :
    Binary64 → Field
  | .nan => word false ['n', 'a', 'n']
  | .infinite negative => word negative ['i', 'n', 'f']
  | .finite negative m e =>
    { sign := signFor flags negative
      body := floatBody layout upper flags.alternate precision m e
      numeric := true }
where
  word (negative : Bool) (cs : List Char) : Field :=
    { sign := signFor flags negative
      body := if upper then cs.map Char.toUpper else cs
      numeric := true }

/-- The character of a value: a text of one character, or the code point of an integer. -/
def toCharacter (v : Value) : Except Fault Char :=
  match v.integer? with
  | some i => if i < 0 ∨ 0x110000 ≤ i then .error .characterRange else .ok (Char.ofNat i.toNat)
  | none =>
    match v with
    | .str s =>
      match s.toList with
      | [c] => .ok c
      | _ => .error .notCharacter
    | _ => .error .notCharacter

/-- The field that the conversion `letter` makes of a value. -/
def convert (flags : Flags) (precision : Option Nat) (letter : Char) (index : Nat) (v : Value) :
    Except Fault Field :=
  match letter with
  | 's' => textField precision v.text?
  | 'r' => textField precision v.shown?
  | 'a' => textField precision v.shownAscii?
  | 'd' | 'i' | 'u' => do
    let i ← toInteger letter v
    integerField flags [] false 10 precision i
  | 'x' => basedField flags letter ['0', 'x'] false 16 precision v
  | 'X' => basedField flags letter ['0', 'X'] true 16 precision v
  | 'o' => basedField flags letter ['0', 'o'] false 8 precision v
  | 'e' => (toFloat v).map (floatField flags .scientific false precision)
  | 'E' => (toFloat v).map (floatField flags .scientific true precision)
  | 'f' => (toFloat v).map (floatField flags .fixed false precision)
  | 'F' => (toFloat v).map (floatField flags .fixed true precision)
  | 'g' => (toFloat v).map (floatField flags .general false precision)
  | 'G' => (toFloat v).map (floatField flags .general true precision)
  | 'c' => (toCharacter v).map fun c => { body := [c] }
  | _ => .error (.unsupported letter index)

/-! ### Arguments -/

def takeArgument : List Value → Except Fault (Value × List Value)
  | [] => .error .missingArgument
  | v :: rest => .ok (v, rest)

def takeStar (args : List Value) : Except Fault (Int × List Value) := do
  let (v, rest) ← takeArgument args
  match v.integer? with
  | some i => .ok (i, rest)
  | none => .error .starNotInteger

/-- The flags and the width of a directive. A negative width from a star means the left flag. -/
def takeWidth (flags : Flags) : Measure → List Value → Except Fault ((Flags × Nat) × List Value)
  | .absent, args => .ok ((flags, 0), args)
  | .given n, args => .ok ((flags, n), args)
  | .star, args => do
    let (i, rest) ← takeStar args
    if i < -maxWidth - 1 ∨ maxWidth < i then .error .starWidthRange
    else if i < 0 then
      -- the least word has no absolute value and pads nothing
      .ok (({ flags with left := true }, if i < -maxWidth then 0 else i.natAbs), rest)
    else .ok ((flags, i.toNat), rest)

/-- The precision of a directive, if it has one. A negative precision from a star means zero. -/
def takePrecision : Measure → List Value → Except Fault (Option Nat × List Value)
  | .absent, args => .ok (none, args)
  | .given n, args => .ok (some n, args)
  | .star, args => do
    let (i, rest) ← takeStar args
    if i < -maxPrecision - 1 ∨ maxPrecision < i then .error .starPrecisionRange
    else .ok (some i.toNat, rest)

def Directive.fill (d : Directive) (args : List Value) : Except Fault (List Char × List Value) := do
  let ((flags, width), args) ← takeWidth d.flags d.width args
  let (precision, args) ← takePrecision d.precision args
  match d.ending with
  | .fault f => .error f
  | .letter c index =>
    let (v, args) ← takeArgument args
    let field ← convert flags precision c index v
    return (field.padded flags width, args)

def fillPieces : List Piece → List Value → Except Fault (List Char)
  | [], [] => .ok []
  | [], _ :: _ => .error .surplusArguments
  | .literal c :: rest, args => (fillPieces rest args).map (c :: ·)
  | .directive d :: rest, args => do
    let (text, args) ← d.fill args
    (fillPieces rest args).map (text ++ ·)

/-- The template with its directives replaced by the arguments, all of which must be used. -/
def fill (template : String) (args : List Value) : Except Fault String :=
  (fillPieces (read template) args).map String.ofList

end MarkupLog.Template
