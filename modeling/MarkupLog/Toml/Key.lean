import MarkupLog.Text.Blank
import MarkupLog.Toml.Quote

/-!
# Keys

A key is a series of parts with dots between them. A part is quoted on one line, or bare: letters,
digits, dashes and underscores. Blanks may stand around each part.
-/

namespace MarkupLog.Toml

/-- A bare part of a key. A tab within it belongs to it, a space does not. -/
def readBarePart (cs : List Char) : Read String :=
  let ofPart := fun c => isBareKey c || isSpace c
  let part := Text.trimmed (cs.takeWhile ofPart)
  if part.isEmpty || part.contains ' ' then .error .malformed
  else .ok (String.ofList part, cs.dropWhile ofPart)

/-- One part of a key, with the blanks around it. -/
def readKeyPart (cs : List Char) : Read String :=
  let cs := skipSpaces cs
  match cs with
  | [] => .error .malformed
  | c :: rest =>
    match Quote.ofMark? c with
    | none => readBarePart cs
    | some quote =>
      match readQuoted quote rest with
      | .error e => .error e
      | .ok ((true, _), behind) => .error (.unexpected behind)
      | .ok ((false, text), behind) => .ok (String.ofList text, skipSpaces behind)

/-- The parts of a key, of which there are no more than the fuel. -/
def readKeyParts : Nat → List Char → Read (List String)
  | 0, _ => .error .malformed
  | fuel + 1, cs =>
    match readKeyPart cs with
    | .error e => .error e
    | .ok (part, '.' :: rest) => (readKeyParts fuel rest).map (part :: ·)
    | .ok (part, rest) => .ok ([part], rest)

def readKey (cs : List Char) : Read (List String) :=
  readKeyParts (cs.length + 1) cs

def readEquals (cs : List Char) : Except Fault (List Char) :=
  match skipSpaces cs with
  | '=' :: rest =>
    match skipSpaces rest with
    | '=' :: more => .error (.unexpected ('=' :: more))
    | value => .ok value
  | here => .error (.unexpected here)

end MarkupLog.Toml
