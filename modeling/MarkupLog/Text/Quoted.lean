import MarkupLog.Text.Printable

/-!
# Quoted texts

A text is quoted for display between single quotes, or between double quotes when it holds a
single quote and no double quote. The quote in use, the backslash and the characters that cannot be
printed are escaped, so that a quoted text fits on one line.
-/

namespace MarkupLog.Text

/-- The hexadecimal digits of a number, padded with zeros to the given width. -/
def hexPadded (width n : Nat) : List Char :=
  let digits := Nat.toDigits 16 n
  List.replicate (width - digits.length) '0' ++ digits

/-- The escape of a code point by number, in the shortest of the three forms that holds it. -/
def escapeCode (n : Nat) : List Char :=
  if n < 0x100 then '\\' :: 'x' :: hexPadded 2 n
  else if n < 0x10000 then '\\' :: 'u' :: hexPadded 4 n
  else '\\' :: 'U' :: hexPadded 8 n

/-- One character of a quoted text; `plain` says which characters may stand for themselves. -/
def quotedChar (plain : Char → Bool) (quote c : Char) : List Char :=
  if c = quote ∨ c = '\\' then ['\\', c]
  else if c = '\n' then ['\\', 'n']
  else if c = '\r' then ['\\', 'r']
  else if c = '\t' then ['\\', 't']
  else if plain c then [c]
  else escapeCode c.toNat

def quoteFor (cs : List Char) : Char :=
  if cs.contains '\x27' && !cs.contains '\x22' then '\x22' else '\x27'

/-- A text between quotes, with every character escaped that is not `plain`. -/
def quotedWith (plain : Char → Bool) (s : String) : String :=
  let quote := quoteFor s.toList
  String.ofList (quote :: (s.toList.flatMap (quotedChar plain quote) ++ [quote]))

/-- A text between quotes; printable characters of any script stand for themselves. -/
def quoted (s : String) : String :=
  quotedWith isPrintable s

def isPrintableAscii (c : Char) : Bool :=
  c.toNat < 0x80 && isPrintable c

/-- A text between quotes with every character outside ASCII escaped. -/
def quotedAscii (s : String) : String :=
  quotedWith isPrintableAscii s

end MarkupLog.Text
