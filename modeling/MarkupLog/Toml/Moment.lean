import MarkupLog.Number.Literal
import MarkupLog.Text.Blank
import MarkupLog.Toml.Scan

/-!
# Dates and times

A date, a time of day, or both with perhaps an offset from universal time, as RFC 3339 writes them.
They are checked against the calendar and kept as text in the form of ISO 8601.
-/

namespace MarkupLog.Toml

/-! ### The calendar -/

def isLeapYear (year : Nat) : Bool :=
  (year % 4 = 0 && year % 100 ≠ 0) || year % 400 = 0

def daysInMonth (year month : Nat) : Nat :=
  match month with
  | 2 => if isLeapYear year then 29 else 28
  | 4 | 6 | 9 | 11 => 30
  | _ => 31

/-- The test for a date of the calendar; years have up to four digits. -/
def isDate (year month day : Nat) : Bool :=
  1 ≤ year && year ≤ 9999 && 1 ≤ month && month ≤ 12 && 1 ≤ day && day ≤ daysInMonth year month

def isTime (hour minute second : Nat) : Bool :=
  hour ≤ 23 && minute ≤ 59 && second ≤ 59

def zeroPadded (width n : Nat) : String :=
  let digits := Number.decimalText n
  String.ofList (List.replicate (width - digits.length) '0' ++ digits)

/-! ### Parts -/

/-- A part of a date or a time: its ISO text, and the rest of what is read. -/
abbrev Part := Option (String × List Char)

def twoDigits? : List Char → Option (Nat × List Char)
  | a :: b :: rest => (Number.ofDigits? 10 [a, b]).map fun n => (n, rest)
  | _ => none

def markedDigits? (mark : Char) : List Char → Option (Nat × List Char)
  | c :: rest => if c = mark then twoDigits? rest else none
  | [] => none

def readDate (cs : List Char) : Part := do
  let year ← Number.ofDigits? 10 (cs.takeWhile Char.isDigit)
  let (month, cs) ← markedDigits? '-' (cs.dropWhile Char.isDigit)
  let (day, cs) ← markedDigits? '-' cs
  if isDate year month day then
    some (zeroPadded 4 year ++ "-" ++ zeroPadded 2 month ++ "-" ++ zeroPadded 2 day, cs)
  else none

/-- The fraction of a second, in millionths; further digits are dropped. -/
def readFraction : List Char → Part
  | '.' :: cs => do
    let digits := cs.takeWhile Char.isDigit
    let micros ← Number.ofDigits? 10 ((digits ++ List.replicate 6 '0').take 6)
    if digits.isEmpty then none
    else some (if micros = 0 then "" else "." ++ zeroPadded 6 micros, cs.dropWhile Char.isDigit)
  | cs => some ("", cs)

def readTime (cs : List Char) : Part := do
  let (hour, cs) ← twoDigits? cs
  let (minute, cs) ← markedDigits? ':' cs
  let (second, cs) ← markedDigits? ':' cs
  let (fraction, cs) ← readFraction cs
  if isTime hour minute second then
    some (zeroPadded 2 hour ++ ":" ++ zeroPadded 2 minute ++ ":" ++ zeroPadded 2 second ++ fraction,
      cs)
  else none

/-- An offset from universal time, if there is one. Before its hours a bar counts as a plus. -/
def readOffset : List Char → Part
  | [] => some ("", [])
  | c :: cs =>
    if c = 'Z' || c = 'z' then some ("+00:00", cs)
    else if c = '+' || c = '-' || c = '|' then do
      let (hours, cs) ← twoDigits? cs
      let (minutes, cs) ← markedDigits? ':' cs
      if isTime hours minutes 0 then
        let sign := if c = '-' && (hours ≠ 0 || minutes ≠ 0) then "-" else "+"
        some (sign ++ zeroPadded 2 hours ++ ":" ++ zeroPadded 2 minutes, cs)
      else none
    else none

def fullTime? (cs : List Char) : Option String :=
  match readTime cs with
  | none => none
  | some (time, rest) =>
    match readOffset rest with
    | some (offset, []) => some (time ++ offset)
    | _ => none

/-! ### Moments -/

/-- The outcome of reading a date or a time: there is none, or one was begun, with its ISO text and
the rest unless it is wrong. -/
inductive MomentRead
  | absent
  | wrong
  | found (iso : String) (rest : List Char)
  deriving Repr, DecidableEq

/-- What follows a date. One space may stand between it and a time; all that stands before a tab, a
line end or a mark belongs to it. -/
def readBehindDate (date : String) (cs : List Char) : MomentRead :=
  let isOwn := fun c => !endsScalar c || c = ' '
  let own := ((cs.takeWhile isOwn).reverse.dropWhile Text.isBlank).reverse
  let rest := cs.dropWhile isOwn
  match own with
  | [] => .found date rest
  | ' ' :: time =>
    match fullTime? time with
    | none => .wrong
    | some time => .found (date ++ "T" ++ time) rest
  | _ :: _ => .wrong

/-- A date, a time, or both at the start of a text. -/
def readMoment (cs : List Char) : MomentRead :=
  let word := cs.takeWhile fun c => !endsScalar c
  let rest := cs.dropWhile fun c => !endsScalar c
  match readDate word with
  | some (date, []) => readBehindDate date rest
  | some (date, mark :: time) =>
    if mark = 'T' || mark = 't' then
      match fullTime? time with
      | none => .wrong
      | some time => .found (date ++ "T" ++ time) rest
    else .wrong
  | none =>
    match readTime word with
    | some (time, []) => .found time rest
    | _ => .absent

end MarkupLog.Toml
