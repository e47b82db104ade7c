import MarkupLog.Markup.Segment

/-!
# Markers

A marker is one letter, a star or a slash between doubled brackets. Markers cut a text into regions
that are in turn plain and colored: a marker outside a colored region opens one in its own color,
and any marker inside a colored region closes it. A region that is never closed reaches to the end.
-/

namespace MarkupLog.Markup

/-! ### Colors of markers -/

def defaultEmphasis : BaseColor := .blue

/-- The letters of the base colors. Black is `k`, since `b` is blue. -/
def letterColor? : String → Option BaseColor
  | "k" => some .black
  | "r" => some .red
  | "g" => some .green
  | "y" => some .yellow
  | "b" => some .blue
  | "m" => some .magenta
  | "c" => some .cyan
  | "w" => some .white
  | _ => none

/-- The color of the region that a marker opens. A slash opens a region without color. A letter
selects its base color, bright when it is small; all other markers stand for emphasis, which is
always bright. -/
def markerColor (emphasis : BaseColor) (marker : String) : Option Color :=
  if marker = "/" then none
  else
    match letterColor? (Text.lower marker) with
    | some base => some ⟨base, Text.lower marker = marker⟩
    | none => some ⟨emphasis, true⟩

/-! ### Reading markers -/

/-- The characters that can stand between the brackets of a marker. -/
def isMarkerChar (c : Char) : Bool :=
  c.isAlpha || c = '*' || c = '/'

/-- The marker at the start of a text, with what follows it. -/
def marker? : List Char → Option (Char × List Char)
  | '[' :: '[' :: c :: ']' :: ']' :: rest => if isMarkerChar c then some (c, rest) else none
  | _ => none

theorem marker?_eq_some_iff {cs rest : List Char} {c : Char} :
    marker? cs = some (c, rest) ↔
      cs = '[' :: '[' :: c :: ']' :: ']' :: rest ∧ isMarkerChar c = true := by
  constructor
  · intro h
    unfold marker? at h
    split at h
    · split at h
      · rename_i hc
        cases h
        exact ⟨rfl, hc⟩
      · cases h
    · cases h
  · rintro ⟨rfl, hc⟩
    simp [marker?, hc]

theorem length_marker? {cs rest : List Char} {c : Char} (h : marker? cs = some (c, rest)) :
    rest.length < cs.length := by
  obtain ⟨rfl, _⟩ := marker?_eq_some_iff.1 h
  simp only [List.length_cons]
  omega

/-- A text cut at its markers: the text before the first marker, and each marker with the text that
follows it. -/
structure Cut where
  head : List Char
  marked : List (Char × List Char)
  deriving Repr, DecidableEq

/-- Cuts a text at its markers, taken from left to right. -/
def cutAtMarkers (cs : List Char) : Cut :=
  match h : marker? cs with
  | some (c, rest) =>
    have := length_marker? h
    let cut := cutAtMarkers rest
    ⟨[], (c, cut.head) :: cut.marked⟩
  | none =>
    match cs with
    | [] => ⟨[], []⟩
    | c :: rest =>
      let cut := cutAtMarkers rest
      ⟨c :: cut.head, cut.marked⟩
termination_by cs.length

/-- The segments of the marked texts; `inside` says whether a colored region is open. -/
def regions (emphasis : BaseColor) (inside : Bool) : List (Char × List Char) → List Segment
  | [] => []
  | (c, text) :: rest =>
    let color := if inside then none else markerColor emphasis (String.singleton c)
    ⟨color, String.ofList text⟩ :: regions emphasis (!inside) rest

def parse (emphasis : BaseColor) (text : String) : List Segment :=
  let cut := cutAtMarkers text.toList
  Segment.merge (⟨none, String.ofList cut.head⟩ :: regions emphasis false cut.marked)

def strip (text : String) : String :=
  Segment.plainText (parse defaultEmphasis text)

end MarkupLog.Markup
