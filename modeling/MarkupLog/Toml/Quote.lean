import MarkupLog.Number.Literal
import MarkupLog.Toml.Scan

/-!
# Quoted text

Text stands between double quotes, where a backslash opens an escape, or between single quotes,
where every character stands for itself. Three quotes open a text that may span lines.
-/

namespace MarkupLog.Toml

inductive Quote
  | double
  | single
  deriving Repr, DecidableEq

def Quote.mark : Quote → Char
  | .double => '\x22'
  | .single => '\x27'

def Quote.ofMark? (c : Char) : Option Quote :=
  if c = Quote.double.mark then some .double
  else if c = Quote.single.mark then some .single
  else none

/-! ### Escapes -/

/-- The character whose number the next hexadecimal digits write, of the given count. -/
def readCodePoint (digits : Nat) (cs : List Char) : Option (Char × List Char) :=
  let code := cs.take digits
  if code.length < digits then none
  else
    match Number.ofDigits? 16 code with
    | none => none
    | some n => if n.isValidChar then some (Char.ofNat n, cs.drop digits) else none

def escaped? : Char → Option Char
  | 'b' => some '\x08'
  | 't' => some '\t'
  | 'n' => some '\n'
  | 'f' => some '\x0c'
  | 'r' => some '\r'
  | '\x22' => some '\x22'
  | '\\' => some '\\'
  | _ => none

/-- What an escape stands for, read behind its backslash. In a text that may span lines, a backslash
at the end of a line removes the line end and the blanks and line ends that follow. -/
def readEscape (spansLines : Bool) (cs : List Char) : Option (List Char × List Char) :=
  match cs with
  | [] => none
  | c :: rest =>
    if spansLines && (isSpace c || c = '\n') then
      if cs.takeWhile (fun d => isSpace d || d = '\n') |>.contains '\n' then
        some ([], cs.dropWhile fun d => isSpace d || d = '\n')
      else none
    else if c = 'u' then (readCodePoint 4 rest).map fun (d, rest) => ([d], rest)
    else if c = 'U' then (readCodePoint 8 rest).map fun (d, rest) => ([d], rest)
    else (escaped? c).map fun d => ([d], rest)

/-! ### Texts -/

/-- The text up to its closing quotes, read behind the opening ones. A text that may span lines ends
at three quotes, and up to two more before them belong to it. -/
def readQuotedFrom (quote : Quote) (spansLines : Bool) : Nat → List Char → Read (List Char)
  | 0, _ | _, [] => .error .malformed
  | fuel + 1, c :: cs =>
    if c = quote.mark then
      if spansLines then
        let marks := (c :: cs).takeWhile (· = quote.mark)
        let rest := (c :: cs).dropWhile (· = quote.mark)
        if marks.length < 3 then (readQuotedFrom quote spansLines fuel rest).map (marks ++ ·)
        else if marks.length < 6 then .ok (marks.drop 3, rest)
        else .error .malformed
      else .ok ([], cs)
    else if c = '\\' && quote = .double then
      match readEscape spansLines cs with
      | none => .error .malformed
      | some (text, rest) => (readQuotedFrom quote spansLines fuel rest).map (text ++ ·)
    else if isControl c && !(spansLines && c = '\n') then .error .malformed
    else (readQuotedFrom quote spansLines fuel cs).map (c :: ·)

/-- A quoted text: whether it may span lines, and its characters. It is read behind its first quote.
A line end right behind three quotes does not count. -/
def readQuoted (quote : Quote) (cs : List Char) : Read (Bool × List Char) :=
  match cs with
  | [] => .error .malformed
  | c :: rest =>
    if c ≠ quote.mark then (readQuotedFrom quote false (cs.length + 1) cs).map (false, ·)
    else
      match rest with
      | [] => .ok ((false, []), [])
      | d :: more =>
        if d ≠ quote.mark then .ok ((false, []), rest)
        else
          let body := if more.head? = some '\n' then more.drop 1 else more
          (readQuotedFrom quote true (body.length + 1) body).map (true, ·)

end MarkupLog.Toml
