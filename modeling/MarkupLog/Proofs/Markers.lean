import MarkupLog.Markup.Marker
import MarkupLog.Proofs.Segments

/-!
# Markers by position

A text can be read without scanning it: a marker stands wherever five characters in a row look like
one, the characters of markers are hidden, and every other character has the color that the number
of markers before it and the last of them decide. The scanner, which goes through the text once and
never looks back, reads the same.
-/

namespace MarkupLog.Markup

/-! ### The reading by position -/

def isMarkLetter (c : Char) : Bool :=
  ('a' ≤ c && c ≤ 'z') || ('A' ≤ c && c ≤ 'Z') || c = '*' || c = '/'

/-- The character of the marker at place `i`, if one stands there. -/
def markAt? (cs : List Char) (i : Nat) : Option Char :=
  match (cs.drop i).take 5 with
  | ['[', '[', c, ']', ']'] => if isMarkLetter c then some c else none
  | _ => none

/-- Place `p` is one of the five places of a marker. -/
def Covered (cs : List Char) (p : Nat) : Prop :=
  ∃ i, i ≤ p ∧ p < i + 5 ∧ (markAt? cs i).isSome

instance (cs : List Char) (p : Nat) : Decidable (Covered cs p) :=
  decidable_of_iff (∃ i ∈ List.range (p + 1), p < i + 5 ∧ (markAt? cs i).isSome)
    ⟨fun ⟨i, hi, h⟩ => ⟨i, Nat.le_of_lt_succ (List.mem_range.mp hi), h⟩,
      fun ⟨i, hi, h⟩ => ⟨i, List.mem_range.mpr (Nat.lt_succ_of_le hi), h⟩⟩

/-- The characters of the markers that start before place `p`, in order. -/
def marksBefore (cs : List Char) (p : Nat) : List Char :=
  (List.range p).filterMap (markAt? cs)

/-- The color after some markers: none after an even number of them, else that of the last one. -/
def colorAfter (emphasis : BaseColor) (marks : List Char) : Option Color :=
  if marks.length % 2 = 0 then none
  else marks.getLast?.bind fun c => markerColor emphasis (String.singleton c)

def reading (emphasis : BaseColor) (cs : List Char) : List (Char × Option Color) :=
  (List.range cs.length).filterMap fun p =>
    if Covered cs p then none
    else cs[p]?.map fun c => (c, colorAfter emphasis (marksBefore cs p))

/-! ### Where markers stand -/

theorem isMarkerChar_eq (c : Char) : isMarkerChar c = isMarkLetter c := by
  have halpha : c.isAlpha = (decide ('A' ≤ c ∧ c ≤ 'Z') || ('a' ≤ c && c ≤ 'z')) := rfl
  simp only [isMarkerChar, isMarkLetter, halpha, Bool.decide_and, Bool.or_comm]

theorem markAt?_eq_some_iff (cs : List Char) (i : Nat) (c : Char) :
    markAt? cs i = some c ↔ ∃ rest, marker? (cs.drop i) = some (c, rest) := by
  constructor
  · intro h
    unfold markAt? at h
    split at h
    · rename_i hfive
      split at h
      · rename_i x hx
        cases h
        refine ⟨(cs.drop i).drop 5, marker?_eq_some_iff.mpr ⟨?_, by rw [isMarkerChar_eq, hx]⟩⟩
        have hsplit := List.take_append_drop 5 (cs.drop i)
        rw [hfive] at hsplit
        exact hsplit.symm
      · cases h
    · cases h
  · rintro ⟨rest, h⟩
    obtain ⟨htext, hletter⟩ := marker?_eq_some_iff.mp h
    rw [isMarkerChar_eq] at hletter
    unfold markAt?
    rw [htext]
    simp [hletter]

theorem markAt?_add (cs : List Char) (i k : Nat) : markAt? cs (i + k) = markAt? (cs.drop i) k := by
  unfold markAt?
  rw [List.drop_drop]

theorem markAt?_zero_of_none {cs : List Char} (h : marker? cs = none) : markAt? cs 0 = none := by
  cases hmark : markAt? cs 0 with
  | none => rfl
  | some c =>
    obtain ⟨rest, hrest⟩ := (markAt?_eq_some_iff cs 0 c).mp hmark
    rw [List.drop_zero, h] at hrest
    cases hrest

/- The second bracket that a marker could share with another one is a letter or a closing one. -/
theorem markAt?_inside {c : Char} (hc : isMarkerChar c = true) (rest : List Char) (k : Nat)
    (hpos : 0 < k) (hk : k < 5) : markAt? ('[' :: '[' :: c :: ']' :: ']' :: rest) k = none := by
  have hbracket : c ≠ '[' := by
    rintro rfl
    exact absurd hc (by decide)
  cases hmark : markAt? ('[' :: '[' :: c :: ']' :: ']' :: rest) k with
  | none => rfl
  | some d =>
    obtain ⟨tail, htail⟩ := (markAt?_eq_some_iff _ k d).mp hmark
    have htext := (marker?_eq_some_iff.mp htail).1
    have hcases : k = 1 ∨ k = 2 ∨ k = 3 ∨ k = 4 := by omega
    rcases hcases with rfl | rfl | rfl | rfl
    · simp only [List.drop_succ_cons, List.drop_zero, List.cons.injEq] at htext
      exact absurd htext.2.1 hbracket
    · simp only [List.drop_succ_cons, List.drop_zero, List.cons.injEq] at htext
      exact absurd htext.1 hbracket
    · simp only [List.drop_succ_cons, List.drop_zero, List.cons.injEq] at htext
      exact absurd htext.1 (by decide)
    · simp only [List.drop_succ_cons, List.drop_zero, List.cons.injEq] at htext
      exact absurd htext.1 (by decide)

theorem marks_apart (cs : List Char) (i j : Nat) (hi : (markAt? cs i).isSome)
    (hj : (markAt? cs j).isSome) (hij : i < j) : i + 5 ≤ j := by
  obtain ⟨c, hc⟩ := Option.isSome_iff_exists.mp hi
  obtain ⟨rest, hrest⟩ := (markAt?_eq_some_iff cs i c).mp hc
  obtain ⟨htext, hletter⟩ := marker?_eq_some_iff.mp hrest
  rcases Nat.lt_or_ge j (i + 5) with hnear | hfar
  · have hinside := markAt?_inside hletter rest (j - i) (by omega) (by omega)
    have hplace : j = i + (j - i) := by omega
    rw [hplace, markAt?_add, htext, hinside] at hj
    cases hj
  · exact hfar

/-! ### What one step of the scanner does to the reading -/

theorem marksBefore_cons {x : Char} {cs : List Char} (h : marker? (x :: cs) = none) (p : Nat) :
    marksBefore (x :: cs) (p + 1) = marksBefore cs p := by
  unfold marksBefore
  rw [List.range_succ_eq_map, List.filterMap_cons, markAt?_zero_of_none h, List.filterMap_map]
  rfl

theorem covered_zero {x : Char} {cs : List Char} (h : marker? (x :: cs) = none) :
    ¬Covered (x :: cs) 0 := by
  rintro ⟨i, hi, _, hmark⟩
  rw [Nat.le_zero.mp hi, markAt?_zero_of_none h] at hmark
  cases hmark

theorem covered_cons {x : Char} {cs : List Char} (h : marker? (x :: cs) = none) (p : Nat) :
    Covered (x :: cs) (p + 1) ↔ Covered cs p := by
  constructor
  · rintro ⟨i, hi, hp, hmark⟩
    cases i with
    | zero =>
      rw [markAt?_zero_of_none h] at hmark
      cases hmark
    | succ i => exact ⟨i, by omega, by omega, hmark⟩
  · rintro ⟨i, hi, hp, hmark⟩
    exact ⟨i + 1, by omega, by omega, hmark⟩

section Marker

variable {c : Char} (hc : isMarkerChar c = true) (rest : List Char)

include hc

theorem markAt?_start : markAt? ('[' :: '[' :: c :: ']' :: ']' :: rest) 0 = some c :=
  (markAt?_eq_some_iff _ 0 c).mpr ⟨rest, marker?_eq_some_iff.mpr ⟨rfl, hc⟩⟩

theorem marksBefore_marker (p : Nat) :
    marksBefore ('[' :: '[' :: c :: ']' :: ']' :: rest) (5 + p) = c :: marksBefore rest p := by
  have hfive : List.range 5 = [0, 1, 2, 3, 4] := rfl
  have hlater : (markAt? ('[' :: '[' :: c :: ']' :: ']' :: rest) ∘ fun i => 5 + i) =
      markAt? rest := by
    funext i
    exact markAt?_add _ 5 i
  unfold marksBefore
  rw [List.range_add, List.filterMap_append, List.filterMap_map, hlater, hfive]
  simp only [List.filterMap_cons, List.filterMap_nil, markAt?_start hc rest,
    markAt?_inside hc rest 1 (by omega) (by omega), markAt?_inside hc rest 2 (by omega) (by omega),
    markAt?_inside hc rest 3 (by omega) (by omega), markAt?_inside hc rest 4 (by omega) (by omega),
    List.cons_append, List.nil_append]

theorem covered_marker (p : Nat) (hp : p < 5) :
    Covered ('[' :: '[' :: c :: ']' :: ']' :: rest) p :=
  ⟨0, Nat.zero_le p, by omega, by rw [markAt?_start hc rest]; rfl⟩

theorem covered_marker_add (p : Nat) :
    Covered ('[' :: '[' :: c :: ']' :: ']' :: rest) (5 + p) ↔ Covered rest p := by
  constructor
  · rintro ⟨i, hi, hp, hmark⟩
    have hlate : ¬i < 5 := by
      intro hi5
      rw [markAt?_inside hc rest i (by omega) hi5] at hmark
      cases hmark
    have hi5 : i = 5 + (i - 5) := by omega
    rw [hi5, markAt?_add] at hmark
    exact ⟨i - 5, by omega, by omega, hmark⟩
  · rintro ⟨i, hi, hp, hmark⟩
    refine ⟨5 + i, by omega, by omega, ?_⟩
    rw [markAt?_add]
    exact hmark

end Marker

/-- The reading of a text that stands behind some markers. -/
def readingAfter (emphasis : BaseColor) (marks cs : List Char) : List (Char × Option Color) :=
  (List.range cs.length).filterMap fun p =>
    if Covered cs p then none
    else cs[p]?.map fun c => (c, colorAfter emphasis (marks ++ marksBefore cs p))

theorem readingAfter_nil (emphasis : BaseColor) (cs : List Char) :
    readingAfter emphasis [] cs = reading emphasis cs := by
  simp only [readingAfter, reading, List.nil_append]

theorem readingAfter_cons (emphasis : BaseColor) (marks : List Char) {x : Char} {cs : List Char}
    (h : marker? (x :: cs) = none) :
    readingAfter emphasis marks (x :: cs) =
      (x, colorAfter emphasis marks) :: readingAfter emphasis marks cs := by
  have hfirst : marks ++ marksBefore (x :: cs) 0 = marks := List.append_nil marks
  unfold readingAfter
  rw [List.length_cons, List.range_succ_eq_map, List.filterMap_cons, if_neg (covered_zero h),
    List.getElem?_cons_zero, Option.map_some, hfirst, List.filterMap_map]
  simp only [Function.comp_def, Nat.succ_eq_add_one, covered_cons h, marksBefore_cons h,
    List.getElem?_cons_succ]

theorem readingAfter_marker (emphasis : BaseColor) (marks : List Char) {c : Char}
    (hc : isMarkerChar c = true) (rest : List Char) :
    readingAfter emphasis marks ('[' :: '[' :: c :: ']' :: ']' :: rest) =
      readingAfter emphasis (marks ++ [c]) rest := by
  have hlength : ('[' :: '[' :: c :: ']' :: ']' :: rest).length = 5 + rest.length := by
    simp only [List.length_cons]
    omega
  have hget : ∀ p, ('[' :: '[' :: c :: ']' :: ']' :: rest)[5 + p]? = rest[p]? := by
    intro p
    rw [Nat.add_comm]
    rfl
  have hhidden : ∀ p ∈ List.range 5, (if Covered ('[' :: '[' :: c :: ']' :: ']' :: rest) p then none
      else ('[' :: '[' :: c :: ']' :: ']' :: rest)[p]?.map fun x => (x, colorAfter emphasis
        (marks ++ marksBefore ('[' :: '[' :: c :: ']' :: ']' :: rest) p))) = none := by
    intro p hp
    rw [if_pos (covered_marker hc rest p (List.mem_range.mp hp))]
  unfold readingAfter
  rw [hlength, List.range_add, List.filterMap_append, List.filterMap_eq_nil_iff.mpr hhidden,
    List.nil_append, List.filterMap_map]
  simp only [Function.comp_def, covered_marker_add hc rest, hget, marksBefore_marker hc rest,
    List.append_assoc, List.singleton_append]

/-! ### The scanner -/

theorem cutAtMarkers_nil : cutAtMarkers [] = ⟨[], []⟩ := by
  rw [cutAtMarkers]
  rfl

theorem cutAtMarkers_cons {x : Char} {cs : List Char} (h : marker? (x :: cs) = none) :
    cutAtMarkers (x :: cs) = ⟨x :: (cutAtMarkers cs).head, (cutAtMarkers cs).marked⟩ := by
  rw [cutAtMarkers]
  split
  · rename_i h'
    rw [h] at h'
    cases h'
  · rfl

theorem cutAtMarkers_marker {c : Char} (hc : isMarkerChar c = true) (rest : List Char) :
    cutAtMarkers ('[' :: '[' :: c :: ']' :: ']' :: rest) =
      ⟨[], (c, (cutAtMarkers rest).head) :: (cutAtMarkers rest).marked⟩ := by
  have hmark := marker?_eq_some_iff.mpr
    (And.intro (rfl : '[' :: '[' :: c :: ']' :: ']' :: rest = _) hc)
  rw [cutAtMarkers]
  split
  · rename_i h'
    rw [hmark] at h'
    cases h'
    rfl
  · rename_i h'
    rw [hmark] at h'
    cases h'

theorem colorAfter_append (emphasis : BaseColor) (marks : List Char) (c : Char) :
    colorAfter emphasis (marks ++ [c]) =
      if marks.length % 2 = 1 then none else markerColor emphasis (String.singleton c) := by
  unfold colorAfter
  rw [List.length_append, List.length_singleton, List.getLast?_concat, Option.bind_some]
  by_cases h : marks.length % 2 = 1
  · rw [if_pos h, if_pos (by omega)]
  · rw [if_neg h, if_neg (by omega)]

theorem painted_ofList (color : Option Color) (cs : List Char) (rest : List Segment) :
    Segment.painted (⟨color, String.ofList cs⟩ :: rest) =
      (cs.map fun c => (c, color)) ++ Segment.painted rest := by
  rw [Segment.painted_cons, String.toList_ofList]

/- Invariant: the region that is open where the scanner stands has the color that the markers behind
it decide, and it is a colored one when their number is odd. -/
theorem painted_cut (emphasis : BaseColor) (marks cs : List Char) :
    Segment.painted (⟨colorAfter emphasis marks, String.ofList (cutAtMarkers cs).head⟩ ::
        regions emphasis (marks.length % 2 = 1) (cutAtMarkers cs).marked) =
      readingAfter emphasis marks cs := by
  induction cs using cutAtMarkers.induct generalizing marks with
  | case1 cs c rest hmark hshorter ih =>
    obtain ⟨rfl, hc⟩ := marker?_eq_some_iff.mp hmark
    have htoggle : (marks ++ [c]).length % 2 = 1 ↔ ¬marks.length % 2 = 1 := by
      rw [List.length_append, List.length_singleton]
      omega
    have hrest := ih (marks ++ [c])
    rw [colorAfter_append] at hrest
    rw [readingAfter_marker emphasis marks hc rest, ← hrest, cutAtMarkers_marker hc rest,
      painted_ofList, List.map_nil, List.nil_append, regions]
    simp only [htoggle, decide_not, decide_eq_true_eq]
  | case2 =>
    rw [cutAtMarkers_nil]
    rfl
  | case3 x rest hnone ih =>
    rw [readingAfter_cons emphasis marks hnone, ← ih marks, cutAtMarkers_cons hnone,
      painted_ofList, painted_ofList]
    rfl

/-- What a text with markers means: markers never overlap, the merged segments show the reading by
position, and they are merged. -/
theorem parse_reads_by_position (emphasis : BaseColor) (text : String) :
    (∀ i j, (markAt? text.toList i).isSome → (markAt? text.toList j).isSome → i < j → i + 5 ≤ j) ∧
    Segment.painted (parse emphasis text) = reading emphasis text.toList ∧
    Segment.Merged (parse emphasis text) := by
  refine ⟨?_, ?_, ?_⟩
  · intro i j hi hj hij
    exact marks_apart text.toList i j hi hj hij
  · have hcut := painted_cut emphasis [] text.toList
    rw [readingAfter_nil] at hcut
    unfold parse
    rw [Segment.painted_merge, ← hcut]
    rfl
  · exact Segment.merged_merge _

end MarkupLog.Markup
