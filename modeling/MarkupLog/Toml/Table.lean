import MarkupLog.Entries
import MarkupLog.Value

/-!
# Tables under construction

A settings text fills its tables piece by piece. While they grow, each table remembers what made it,
because that decides what may still be added: a key can be set once, a header can stand once, and a
series of tables grows only through headers of its own.
-/

namespace MarkupLog.Toml

/-- What made a table: its own header, the header of a table within it, or a key with dots. -/
inductive Origin
  | header
  | inner
  | dotted
  deriving Repr, DecidableEq

/-- What a key of a growing table holds: a finished value, a table, or a series of tables. -/
inductive Node
  | value (v : Value)
  | table (origin : Origin) (entries : List (String × Node))
  | series (elements : List (List (String × Node)))
  deriving Repr

abbrev Table := Entries String Node

/-! ### The finished value -/

mutual

def Node.finished : Node → Value
  | .value v => v
  | .table _ entries => .table (finishedEntries entries)
  | .series elements => .list (finishedElements elements)

def finishedEntries : List (String × Node) → List (String × Value)
  | [] => []
  | (k, n) :: rest => (k, n.finished) :: finishedEntries rest

def finishedElements : List (List (String × Node)) → List Value
  | [] => []
  | entries :: rest => .table (finishedEntries entries) :: finishedElements rest

end

/-! ### Growing -/

namespace Table

/-- Sets a key with dots to a value; `none` if the key is set already, or a part of it holds no
table. -/
def setValue (v : Value) : List String → Table → Option Table
  | [], _ => none
  | [k], t => if t.has k then none else some (t.put k (.value v))
  | k :: rest, t =>
    match t.get? k with
    | none => (setValue v rest []).map fun sub => t.put k (.table .dotted sub)
    | some (.table origin sub) =>
      let origin := if origin = .inner then .dotted else origin
      (setValue v rest sub).map fun sub => t.put k (.table origin sub)
    | some _ => none

def changeLast (change : Table → Option Table) (elements : List Table) : Option (List Table) :=
  match elements.getLast? with
  | none => none
  | some last => (change last).map fun changed => elements.dropLast ++ [changed]

/-- Changes the table at an address. The address of a series is that of its last table. -/
def changeAt (change : Table → Option Table) : List String → Table → Option Table
  | [], t => change t
  | k :: rest, t =>
    match t.get? k with
    | some (.table origin sub) =>
      (changeAt change rest sub).map fun sub => t.put k (.table origin sub)
    | some (.series elements) =>
      (changeLast (changeAt change rest) elements).map fun elements => t.put k (.series elements)
    | _ => none

/-- Adds what the header of a table, or of one more table of a series, announces. The way there may
lead through a series only where `isOpen` allows it. -/
def addHeader (series : Bool) (isOpen : List String → Bool) (walked : List String) :
    List String → Table → Option Table
  | [], _ => none
  | [k], t =>
    match series, t.get? k with
    | false, none => some (t.put k (.table .header []))
    | false, some (.table .inner sub) => some (t.put k (.table .header sub))
    | true, none => some (t.put k (.series [[]]))
    | true, some (.series elements) => some (t.put k (.series (elements ++ [[]])))
    | _, some _ => none
  | k :: rest, t =>
    let walked := walked ++ [k]
    match t.get? k with
    | none =>
      (addHeader series isOpen walked rest []).map fun sub => t.put k (.table .inner sub)
    | some (.table origin sub) =>
      (addHeader series isOpen walked rest sub).map fun sub => t.put k (.table origin sub)
    | some (.series elements) =>
      if isOpen walked then
        (changeLast (addHeader series isOpen walked rest) elements).map fun elements =>
          t.put k (.series elements)
      else none
    | some (.value _) => none

end Table

end MarkupLog.Toml
