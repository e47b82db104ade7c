/-!
# Letter case

Names are compared without regard to case. All names are ASCII, so of the full case maps only the
characters with an ASCII letter in their image matter: those are listed here, and any other
character is kept. A kept character is no part of any name, before or after mapping.
-/

namespace MarkupLog.Text

/-- The lower-case image of one character: the ASCII capitals, the Kelvin sign, and the dotted
capital I, which becomes two characters. -/
def lowerChar (c : Char) : List Char :=
  if 'A' ≤ c ∧ c ≤ 'Z' then [Char.ofNat (c.toNat + 32)]
  else if c = '\u212A' then ['k']
  else if c = '\u0130' then ['i', '\u0307']
  else [c]

def lower (s : String) : String :=
  String.ofList (s.toList.flatMap lowerChar)

/-- The characters outside ASCII whose upper-case image holds an ASCII letter. -/
def upperImages : List (Char × List Char) :=
  [('\u00DF', ['S', 'S']), ('\u0131', ['I']), ('\u0149', ['\u02BC', 'N']), ('\u017F', ['S']),
    ('\u01F0', ['J', '\u030C']), ('\u1E96', ['H', '\u0331']), ('\u1E97', ['T', '\u0308']),
    ('\u1E98', ['W', '\u030A']), ('\u1E99', ['Y', '\u030A']), ('\u1E9A', ['A', '\u02BE']),
    ('\uFB00', ['F', 'F']), ('\uFB01', ['F', 'I']), ('\uFB02', ['F', 'L']),
    ('\uFB03', ['F', 'F', 'I']), ('\uFB04', ['F', 'F', 'L']), ('\uFB05', ['S', 'T']),
    ('\uFB06', ['S', 'T'])]

def upperChar (c : Char) : List Char :=
  if 'a' ≤ c ∧ c ≤ 'z' then [Char.ofNat (c.toNat - 32)]
  else (upperImages.lookup c).getD [c]

def upper (s : String) : String :=
  String.ofList (s.toList.flatMap upperChar)

end MarkupLog.Text
