import MarkupLog.Proofs.Markers

/-!
# Segments written with markers

Merged segments whose texts hold no marker can be written as one text: a segment without color as it
is, a colored one between a marker of its color and any marker. Brackets at the ends of the texts do
no harm, since no marker shares a character with the one behind it. Parsing gives the segments back.
-/

namespace MarkupLog.Markup

/-! ### Writing -/

def markerText (c : Char) : String :=
  String.ofList ['[', '[', c, ']', ']']

/-- The ways of writing segments. -/
inductive Written (emphasis : BaseColor) : List Segment → String → Prop
  | nil : Written emphasis [] ""
  | plain (text : String) {rest : List Segment} {written : String}
      (hrest : Written emphasis rest written) :
      Written emphasis (⟨none, text⟩ :: rest) (text ++ written)
  | colored (text : String) {color : Color} {opener closer : Char} {rest : List Segment}
      {written : String} (hopener : isMarkLetter opener = true)
      (hcolor : markerColor emphasis (String.singleton opener) = some color)
      (hcloser : isMarkLetter closer = true) (hrest : Written emphasis rest written) :
      Written emphasis (⟨some color, text⟩ :: rest)
        (markerText opener ++ text ++ markerText closer ++ written)

def MarkerFree (text : String) : Prop :=
  ∀ i < text.toList.length, markAt? text.toList i = none

instance (text : String) : Decidable (MarkerFree text) :=
  inferInstanceAs (Decidable (∀ i < text.toList.length, markAt? text.toList i = none))

/-! ### A marker for every color -/

def baseLetter : BaseColor → Char
  | .black => 'k'
  | .red => 'r'
  | .green => 'g'
  | .yellow => 'y'
  | .blue => 'b'
  | .magenta => 'm'
  | .cyan => 'c'
  | .white => 'w'

/-- The letter that opens a region of a color: a small one for bright colors. -/
def colorLetter (color : Color) : Char :=
  if color.bright then baseLetter color.base else (baseLetter color.base).toUpper

theorem isMarkLetter_colorLetter (color : Color) : isMarkLetter (colorLetter color) = true := by
  obtain ⟨base, bright⟩ := color
  cases base <;> cases bright <;> decide

theorem markerColor_colorLetter (emphasis : BaseColor) (color : Color) :
    markerColor emphasis (String.singleton (colorLetter color)) = some color := by
  obtain ⟨base, bright⟩ := color
  cases base <;> cases bright <;> cases emphasis <;> decide +kernel

theorem exists_written (emphasis : BaseColor) (segments : List Segment) :
    ∃ text, Written emphasis segments text := by
  induction segments with
  | nil => exact ⟨"", .nil⟩
  | cons s rest ih =>
    obtain ⟨written, hrest⟩ := ih
    obtain ⟨color, text⟩ := s
    cases color with
    | none => exact ⟨_, .plain text hrest⟩
    | some color =>
      have hletter := isMarkLetter_colorLetter color
      exact ⟨_, .colored text hletter (markerColor_colorLetter emphasis color) hletter hrest⟩

/-! ### Scanning what was written -/

/-- A text that is at its end or opens with two brackets. -/
def OpensOrEnds (cs : List Char) : Prop :=
  cs = [] ∨ ∃ rest, cs = '[' :: '[' :: rest

theorem opensOrEnds_markerText (c : Char) (text : String) :
    OpensOrEnds (markerText c ++ text).toList := by
  rw [String.toList_append, markerText, String.toList_ofList]
  exact Or.inr ⟨_, rfl⟩

theorem Written.opensOrEnds {emphasis : BaseColor} {segments : List Segment} {text : String}
    (h : Written emphasis segments text) (hcolored : ∀ s ∈ segments.head?, s.color ≠ none) :
    OpensOrEnds text.toList := by
  cases h with
  | nil => exact Or.inl rfl
  | plain text hrest => exact absurd rfl (hcolored _ rfl)
  | colored text hopener hcolor hcloser hrest =>
    rw [String.append_assoc, String.append_assoc]
    exact opensOrEnds_markerText _ _

/- A marker that starts in a text and reaches into what follows would have an opening bracket in the
place of its letter or of a closing bracket. -/
theorem marker?_append_eq_none (x : Char) (cs rest : List Char) (hrest : OpensOrEnds rest)
    (h : markAt? (x :: cs) 0 = none) : marker? (x :: cs ++ rest) = none := by
  cases hmark : marker? (x :: cs ++ rest) with
  | none => rfl
  | some p =>
    obtain ⟨c, tail⟩ := p
    obtain ⟨htext, hc⟩ := marker?_eq_some_iff.mp hmark
    have hbracket : c ≠ '[' := by
      rintro rfl
      exact absurd hc (by decide)
    rcases hrest with rfl | ⟨more, rfl⟩
    · rw [List.append_nil] at htext
      rw [htext, markAt?_start hc tail] at h
      cases h
    · match cs, h, htext with
      | [], _, htext =>
        simp only [List.cons_append, List.nil_append, List.cons.injEq] at htext
        exact absurd htext.2.2.1.symm hbracket
      | [_], _, htext =>
        simp only [List.cons_append, List.nil_append, List.cons.injEq] at htext
        exact absurd htext.2.2.1.symm hbracket
      | [_, _], _, htext =>
        simp only [List.cons_append, List.nil_append, List.cons.injEq] at htext
        exact absurd htext.2.2.2.1 (by decide)
      | [_, _, _], _, htext =>
        simp only [List.cons_append, List.nil_append, List.cons.injEq] at htext
        exact absurd htext.2.2.2.2.1 (by decide)
      | a :: b :: d :: e :: cs, h, htext =>
        simp only [List.cons_append, List.cons.injEq] at htext
        obtain ⟨rfl, rfl, rfl, rfl, rfl, -⟩ := htext
        rw [markAt?_start hc cs] at h
        cases h

theorem cutAtMarkers_append (cs rest : List Char) (hrest : OpensOrEnds rest)
    (hfree : ∀ i < cs.length, markAt? cs i = none) :
    cutAtMarkers (cs ++ rest) =
      ⟨cs ++ (cutAtMarkers rest).head, (cutAtMarkers rest).marked⟩ := by
  induction cs with
  | nil => rfl
  | cons x cs ih =>
    have hstart := hfree 0 (Nat.succ_pos _)
    have htail : ∀ i < cs.length, markAt? cs i = none := by
      intro i hi
      exact hfree (i + 1) (Nat.succ_lt_succ hi)
    have hnone := marker?_append_eq_none x cs rest hrest hstart
    rw [List.cons_append] at hnone ⊢
    rw [cutAtMarkers_cons hnone, ih htail]
    rfl

theorem cutAtMarkers_markerText (c : Char) (hc : isMarkLetter c = true) (text : String) :
    cutAtMarkers (markerText c ++ text).toList =
      ⟨[], (c, (cutAtMarkers text.toList).head) :: (cutAtMarkers text.toList).marked⟩ := by
  rw [← isMarkerChar_eq] at hc
  rw [String.toList_append, markerText, String.toList_ofList]
  exact cutAtMarkers_marker hc text.toList

/- By induction on the way of writing. Behind a segment without color stands the end or a colored
one, so no marker starts in its text; behind the text of a colored one stands its closing marker. -/
theorem painted_cut_written {emphasis : BaseColor} {segments : List Segment} {text : String}
    (h : Written emphasis segments text) (hfree : ∀ s ∈ segments, MarkerFree s.text)
    (hdistinct : segments.IsChain fun a b => a.color ≠ b.color) :
    Segment.painted (⟨none, String.ofList (cutAtMarkers text.toList).head⟩ ::
      regions emphasis false (cutAtMarkers text.toList).marked) = Segment.painted segments := by
  induction h with
  | nil =>
    rw [String.toList_empty, cutAtMarkers_nil]
    rfl
  | plain text hrest ih =>
    rw [List.forall_mem_cons] at hfree
    rw [List.isChain_cons] at hdistinct
    have hcolored := hrest.opensOrEnds fun s hs => (hdistinct.1 s hs).symm
    have hpainted := ih hfree.2 hdistinct.2
    rw [painted_ofList] at hpainted
    rw [String.toList_append, cutAtMarkers_append _ _ hcolored hfree.1, painted_ofList,
      Segment.painted_cons, List.map_append, List.append_assoc, hpainted]
  | @colored text color opener closer rest written hopener hcolor hcloser hrest ih =>
    rw [List.forall_mem_cons] at hfree
    rw [List.isChain_cons] at hdistinct
    have hpainted := ih hfree.2 hdistinct.2
    have hcloses := opensOrEnds_markerText closer written
    have hcut : cutAtMarkers (text ++ (markerText closer ++ written)).toList =
        ⟨text.toList, (closer, (cutAtMarkers written.toList).head) ::
          (cutAtMarkers written.toList).marked⟩ := by
      rw [String.toList_append, cutAtMarkers_append _ _ hcloses hfree.1,
        cutAtMarkers_markerText closer hcloser, List.append_nil]
    rw [String.append_assoc, String.append_assoc, cutAtMarkers_markerText opener hopener, hcut,
      painted_ofList, List.map_nil, List.nil_append, regions, regions, painted_ofList, hcolor,
      Segment.painted_cons]
    exact congrArg _ hpainted

/-- Parsing undoes writing. Merged segments whose texts hold no marker can be written, and however
they are written, parsing gives them back; for every color there is a marker that opens it. -/
theorem parse_written (emphasis : BaseColor) (segments : List Segment)
    (hmerged : Segment.Merged segments) (hfree : ∀ s ∈ segments, MarkerFree s.text) :
    (∃ text, Written emphasis segments text) ∧
    (∀ text, Written emphasis segments text → parse emphasis text = segments) ∧
    ∀ color, ∃ letter, isMarkLetter letter = true ∧
      markerColor emphasis (String.singleton letter) = some color := by
  refine ⟨exists_written emphasis segments, ?_, ?_⟩
  · intro text h
    have hparsed : Segment.Merged (parse emphasis text) := Segment.merged_merge _
    apply hparsed.eq_of_painted hmerged
    unfold parse
    rw [Segment.painted_merge]
    exact painted_cut_written h hfree hmerged.distinct
  · intro color
    exact ⟨colorLetter color, isMarkLetter_colorLetter color,
      markerColor_colorLetter emphasis color⟩

/- Texts with brackets at both ends, one colored segment behind another, closing markers of other
colors. -/
theorem parse_written_brackets :
    let segments : List Segment :=
      [⟨none, "[["⟩, ⟨some ⟨.red, true⟩, "a]]"⟩, ⟨some ⟨.blue, true⟩, "[[x]"⟩]
    Segment.Merged segments ∧ (∀ s ∈ segments, MarkerFree s.text) ∧
      Written .blue segments "[[[[r]]a]][[/]][[*]][[x][[Z]]" ∧
      parse .blue "[[[[r]]a]][[/]][[*]][[x][[Z]]" = segments := by
  intro segments
  have hmerged : Segment.Merged segments := ⟨by decide, by decide⟩
  have hfree : ∀ s ∈ segments, MarkerFree s.text := by decide
  have hblue : Written .blue [⟨some ⟨.blue, true⟩, "[[x]"⟩]
      (markerText '*' ++ "[[x]" ++ markerText 'Z' ++ "") :=
    .colored "[[x]" (by decide) (by decide +kernel) (by decide) .nil
  have hred : Written .blue [⟨some ⟨.red, true⟩, "a]]"⟩, ⟨some ⟨.blue, true⟩, "[[x]"⟩]
      (markerText 'r' ++ "a]]" ++ markerText '/' ++ "[[*]][[x][[Z]]") :=
    .colored "a]]" (by decide) (by decide +kernel) (by decide) hblue
  have hwritten : Written .blue segments "[[[[r]]a]][[/]][[*]][[x][[Z]]" := .plain "[[" hred
  obtain ⟨-, hparse, -⟩ := parse_written .blue segments hmerged hfree
  exact ⟨hmerged, hfree, hwritten, hparse _ hwritten⟩

end MarkupLog.Markup
