import MarkupLog.Environment
import MarkupLog.Number.Layout
import MarkupLog.Text.Quoted
import MarkupLog.Text.Split

/-!
# Values

The values that a message takes as arguments and that a settings table holds, with their two texts:
the plain text of a value, and the shown text in which strings are quoted. The members of a list or
a table are always shown. An integer of very many digits has no text, and neither has a value that
holds one.
-/

namespace MarkupLog

open Number (Binary64)

/-- A value of a message or of a settings table. A moment is a date or time, kept as its ISO text. -/
inductive Value
  | none
  | bool (b : Bool)
  | int (i : Int)
  | float (f : Binary64)
  | str (s : String)
  | list (items : List Value)
  | table (entries : List (String × Value))
  | moment (iso : String)
  deriving Repr

namespace Value

/-! ### Equality -/

mutual

/-- The test for the same value. -/
def same : Value → Value → Bool
  | .none, .none => true
  | .bool b, .bool c => b = c
  | .int i, .int j => i = j
  | .float f, .float g => f = g
  | .str s, .str t => s = t
  | .list items, .list others => sameItems items others
  | .table entries, .table others => sameEntries entries others
  | .moment s, .moment t => s = t
  | _, _ => false

def sameItems : List Value → List Value → Bool
  | [], [] => true
  | v :: rest, w :: others => same v w && sameItems rest others
  | _, _ => false

def sameEntries : List (String × Value) → List (String × Value) → Bool
  | [], [] => true
  | (k, v) :: rest, (l, w) :: others => k = l && same v w && sameEntries rest others
  | _, _ => false

end

mutual

theorem same_iff (v w : Value) : same v w ↔ v = w := by
  cases v with
  | list items =>
    cases w with
    | list others => rw [same, sameItems_iff items others, list.injEq]
    | _ => simp [same]
  | table entries =>
    cases w with
    | table others => rw [same, sameEntries_iff entries others, table.injEq]
    | _ => simp [same]
  | _ => cases w <;> simp [same]

theorem sameItems_iff (items others : List Value) : sameItems items others ↔ items = others := by
  cases items with
  | nil => cases others <;> simp [sameItems]
  | cons v rest =>
    cases others with
    | nil => simp [sameItems]
    | cons w others =>
      rw [sameItems, Bool.and_eq_true, same_iff v w, sameItems_iff rest others, List.cons.injEq]

theorem sameEntries_iff (entries others : List (String × Value)) :
    sameEntries entries others ↔ entries = others := by
  cases entries with
  | nil => cases others <;> simp [sameEntries]
  | cons entry rest =>
    obtain ⟨k, v⟩ := entry
    cases others with
    | nil => simp [sameEntries]
    | cons other others =>
      obtain ⟨l, w⟩ := other
      rw [sameEntries, Bool.and_eq_true, Bool.and_eq_true, same_iff v w,
        sameEntries_iff rest others, decide_eq_true_iff, List.cons.injEq, Prod.mk.injEq]

end

instance : DecidableEq Value := fun v w => decidable_of_iff _ (same_iff v w)

/-! ### Texts -/

/-- The decimal numeral of an integer, however many digits it has. -/
def intText (i : Int) : String :=
  String.ofList (Number.signText (i < 0) ++ Number.decimalText i.natAbs)

/-- The test for an integer with more decimal digits than a text may have. -/
def tooLong (i : Int) : Bool :=
  Environment.maxDigits < Number.digitCount i.natAbs

def boolText (b : Bool) : String :=
  if b then "True" else "False"

mutual

/-- The shown text of a value, for a given way of quoting strings. -/
def shownWith? (quote : String → String) : Value → Option String
  | .none => some "None"
  | .bool b => some (boolText b)
  | .int i => if tooLong i then Option.none else some (intText i)
  | .float f => some f.text
  | .str s => some (quote s)
  | .list items => (shownItems? quote items).map fun texts => "[" ++ Text.join ", " texts ++ "]"
  | .table entries =>
    (shownEntries? quote entries).map fun texts => "\x7b" ++ Text.join ", " texts ++ "\x7d"
  | .moment iso => some iso

def shownItems? (quote : String → String) : List Value → Option (List String)
  | [] => some []
  | v :: rest => do
    let text ← shownWith? quote v
    let texts ← shownItems? quote rest
    return text :: texts

def shownEntries? (quote : String → String) : List (String × Value) → Option (List String)
  | [] => some []
  | (k, v) :: rest => do
    let text ← shownWith? quote v
    let texts ← shownEntries? quote rest
    return (quote k ++ ": " ++ text) :: texts

end

def shown? (v : Value) : Option String :=
  v.shownWith? Text.quoted

def shownAscii? (v : Value) : Option String :=
  v.shownWith? Text.quotedAscii

/-- The plain text of a value: a string is its own text, any other value is shown. -/
def text? : Value → Option String
  | .str s => some s
  | v => v.shown?

def typeName : Value → String
  | .none => "NoneType"
  | .bool _ => "bool"
  | .int _ => "int"
  | .float _ => "float"
  | .str _ => "str"
  | .list _ => "list"
  | .table _ => "dict"
  | .moment _ => "datetime"

/-- The integer that a value stands for: an integer itself, or a truth value as one or zero. -/
def integer? : Value → Option Int
  | .int i => some i
  | .bool b => some (if b then 1 else 0)
  | _ => Option.none

end Value

end MarkupLog
