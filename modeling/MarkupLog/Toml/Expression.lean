import MarkupLog.Toml.Key
import MarkupLog.Toml.Moment
import MarkupLog.Toml.Numeral
import MarkupLog.Toml.Table

/-!
# Values of settings text

A value is a scalar, a list between brackets, or a table between braces. A list may go over several
lines and end with a comma; a table stays on one line and may not. A list whose next item stops at
the closing bracket ends there without the item.
-/

namespace MarkupLog.Toml

/-! ### Scalars -/

def readWord (word : String) (v : Value) (cs : List Char) : Read Value :=
  if word.toList.isPrefixOf cs then .ok (v, cs.drop word.length) else .error (.unexpected cs)

def numberWords : List (List Char) :=
  [['i', 'n', 'f'], ['n', 'a', 'n']]

/-- A number, up to the character that ends it. -/
def readNumber (cs : List Char) : Read Value :=
  match number? (cs.takeWhile fun c => !endsScalar c) with
  | some v => .ok (v, cs.dropWhile fun c => !endsScalar c)
  | none => .error .malformed

def readScalar (cs : List Char) : Read Value :=
  match cs with
  | [] => .error (.unexpected [])
  | c :: rest =>
    match Quote.ofMark? c with
    | some quote => (readQuoted quote rest).map fun (_, text) => .str (String.ofList text)
    | none =>
      if c = 't' then readWord "true" (.bool true) cs
      else if c = 'f' then readWord "false" (.bool false) cs
      else if c = '+' || c = '-' || numberWords.contains (cs.takeWhile fun c => !endsScalar c) then
        readNumber cs
      else if c.isDigit then
        match readMoment cs with
        | .found iso rest => .ok (.moment iso, rest)
        | .wrong => .error .malformed
        | .absent => readNumber cs
      else .error (.unexpected cs)

/-! ### Lists and tables -/

/-- Where the reader of a list stands: it wants an item, or has one and wants a comma. -/
inductive ListPlace
  | wantsItem
  | hasItem
  deriving Repr, DecidableEq

/-- Where the reader of a table stands: at its start, behind an entry, or behind a comma. -/
inductive TablePlace
  | start
  | hasEntry
  | wantsEntry
  deriving Repr, DecidableEq

/-- The end of a list, which must come now. -/
def closeList (items : List Value) : List Char → Read Value
  | ']' :: rest => .ok (.list items, rest)
  | here => .error (.unexpected here)

mutual

/-- A value. The fuel bounds how deep values stand in each other and how many parts they have. -/
def readValue : Nat → List Char → Read Value
  | 0, _ => .error .malformed
  | fuel + 1, cs =>
    match cs with
    | '[' :: rest => readItems fuel .wantsItem [] rest
    | '{' :: rest => readEntries fuel .start [] rest
    | _ => readScalar cs

/-- The items of a list, read behind its opening bracket and after the items so far. -/
def readItems : Nat → ListPlace → List Value → List Char → Read Value
  | 0, _, _, _ => .error .malformed
  | fuel + 1, place, items, cs =>
    match skipGap false cs, place with
    | .error e, _ => .error e
    | .ok (',' :: rest), .hasItem => readItems fuel .wantsItem items rest
    | .ok here, .hasItem => closeList items here
    | .ok here, .wantsItem =>
      match readValue fuel here with
      | .ok (v, rest) => readItems fuel .hasItem (items ++ [v]) rest
      | .error (.unexpected stop) => closeList items stop
      | .error .malformed => .error .malformed

/-- The entries of a table, read behind its opening brace and after the entries so far. -/
def readEntries : Nat → TablePlace → Table → List Char → Read Value
  | 0, _, _, _ => .error .malformed
  | fuel + 1, place, entries, cs =>
    match skipSpaces cs, place with
    | '}' :: rest, .start | '}' :: rest, .hasEntry =>
      .ok (.table (finishedEntries entries), rest)
    | ',' :: rest, .hasEntry => readEntries fuel .wantsEntry entries rest
    | here, .hasEntry => .error (.unexpected here)
    | ',' :: rest, _ => .error (.unexpected (',' :: rest))
    | here, _ =>
      match readKey here with
      | .error e => .error e
      | .ok (key, behind) =>
        match readEquals behind with
        | .error e => .error e
        | .ok text =>
          match readValue fuel text with
          | .error e => .error e
          | .ok (v, rest) =>
            match entries.setValue v key with
            | none => .error .malformed
            | some entries => readEntries fuel .hasEntry entries rest

end

end MarkupLog.Toml
