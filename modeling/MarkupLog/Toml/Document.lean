import MarkupLog.Toml.Expression

/-!
# Settings documents

A document is a series of lines: entries, each a key and its value, and headers, each of which opens
a table for the entries after it. A header is within another one when its key goes on from the key
of that one; it stays open as long as only headers within it follow.
-/

namespace MarkupLog.Toml

/-- A document as far as it is read: its tables, where the next entries go, and the keys of the open
headers, the outermost first. -/
structure Document where
  root : Table := []
  address : List String := []
  headers : List (List String) := []

namespace Document

def around (d : Document) (key : List String) : List (List String) :=
  d.headers.filter fun h => h.isPrefixOf key && h ≠ key

def withHeader (d : Document) (series : Bool) (key : List String) : Option Document :=
  let headers := d.around key
  (Table.addHeader series headers.contains [] key d.root).map fun root =>
    { root, address := key, headers := headers ++ [key] }

def withEntry (d : Document) (key : List String) (v : Value) : Option Document :=
  (Table.changeAt (Table.setValue v key) d.address d.root).map fun root => { d with root }

end Document

/-! ### Lines -/

/-- A header, read behind its opening brackets. The bracket that ends it is checked, the second one
of a series is only skipped. -/
def readHeader (d : Document) (series : Bool) (cs : List Char) :
    Except Fault (Document × List Char) := do
  match ← readKey cs with
  | (key, ']' :: rest) =>
    let rest ← finishLine (if series then rest.drop 1 else rest)
    match d.withHeader series key with
    | some d => .ok (d, rest)
    | none => .error .malformed
  | (_, here) => .error (.unexpected here)

def readEntry (d : Document) (cs : List Char) : Except Fault (Document × List Char) := do
  let (key, behind) ← readKey cs
  let text ← readEquals behind
  let (v, rest) ← readValue (2 * text.length + 2) text
  let rest ← finishLine rest
  match d.withEntry key v with
  | some d => .ok (d, rest)
  | none => .error .malformed

/-- The lines of a document, of which there are fewer than the fuel. -/
def readLines : Nat → Document → List Char → Except Fault Document
  | 0, _, _ => .error .malformed
  | fuel + 1, d, cs => do
    match ← skipGap false cs with
    | [] => .ok d
    | '[' :: '[' :: rest =>
      let (d, rest) ← readHeader d true rest
      readLines fuel d rest
    | '[' :: rest =>
      let (d, rest) ← readHeader d false rest
      readLines fuel d rest
    | here =>
      let (d, rest) ← readEntry d here
      readLines fuel d rest

/-- The table that a text writes; `none` if the text is no settings document. -/
def read (text : String) : Option (Entries String Value) :=
  match readLines (text.length + 1) {} text.toList with
  | .ok d => some (finishedEntries d.root)
  | .error _ => none

end MarkupLog.Toml
