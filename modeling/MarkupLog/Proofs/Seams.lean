import MarkupLog.Proofs.LineByLine
import MarkupLog.Proofs.WrittenSegments

/-!
# Seams of stripped texts

Stripping removes the characters of all markers and no others. So it joins what stood on the two
sides of a marker, and characters that meet there can look like a marker again: what is left of
`[[[[a]]b]]` is `[[b]]`. Every marker of a stripped text reaches over such a seam. A text without
brackets next to its markers leaves none.
-/

namespace MarkupLog.Markup

/-! ### What is left -/

theorem toList_strip (text : String) : (strip text).toList = (cutAtMarkers text.toList).plain := by
  unfold strip
  rw [Segment.plainText_eq_painted, map_fst_painted_parse, String.toList_ofList]

theorem plain_nil : (cutAtMarkers []).plain = [] := by
  rw [cutAtMarkers_nil]
  rfl

theorem plain_cons {x : Char} {cs : List Char} (h : marker? (x :: cs) = none) :
    (cutAtMarkers (x :: cs)).plain = x :: (cutAtMarkers cs).plain := by
  rw [cutAtMarkers_cons h]
  rfl

theorem plain_marker {c : Char} (hc : isMarkerChar c = true) (rest : List Char) :
    (cutAtMarkers ('[' :: '[' :: c :: ']' :: ']' :: rest)).plain = (cutAtMarkers rest).plain := by
  rw [cutAtMarkers_marker hc rest]
  rfl

/-- The characters outside the markers, by their places. -/
def uncovered (cs : List Char) : List Char :=
  (List.range cs.length).filterMap fun p => if Covered cs p then none else cs[p]?

theorem plain_eq_uncovered (cs : List Char) : (cutAtMarkers cs).plain = uncovered cs := by
  have hreading := congrArg (List.map Prod.fst) (painted_cut defaultEmphasis [] cs)
  rw [readingAfter_nil, painted_ofList, List.map_append, map_fst_painted_regions, List.map_map,
    reading, List.map_filterMap] at hreading
  have hhead : (cutAtMarkers cs).head.map
      (Prod.fst ∘ fun c => (c, colorAfter defaultEmphasis [])) = (cutAtMarkers cs).head :=
    List.map_id _
  rw [hhead] at hreading
  unfold Cut.plain uncovered
  rw [hreading]
  congr 1
  funext p
  by_cases hcovered : Covered cs p
  · rw [if_pos hcovered, if_pos hcovered]
    rfl
  · rw [if_neg hcovered, if_neg hcovered, Option.map_map]
    exact Option.map_id'

theorem plain_eq_self_iff (cs : List Char) :
    (cutAtMarkers cs).plain = cs ↔ ∀ i < cs.length, markAt? cs i = none := by
  induction cs using cutAtMarkers.induct with
  | case1 cs c rest hmark hshorter ih =>
    obtain ⟨rfl, hc⟩ := marker?_eq_some_iff.mp hmark
    rw [plain_marker hc rest]
    constructor
    · intro h
      have hlength := (sublist_plain_cut rest).length_le
      rw [h] at hlength
      omega
    · intro h
      have hstart := h 0 (Nat.succ_pos _)
      rw [markAt?_start hc rest] at hstart
      cases hstart
  | case2 => exact iff_of_true plain_nil fun i hi => absurd hi (Nat.not_lt_zero i)
  | case3 x rest hnone ih =>
    rw [plain_cons hnone, List.cons.injEq, ih]
    constructor
    · intro h i hi
      cases i with
      | zero => exact markAt?_zero_of_none hnone
      | succ i => exact h.2 i (Nat.lt_of_succ_lt_succ hi)
    · intro h
      exact ⟨rfl, fun i hi => h (i + 1) (Nat.succ_lt_succ hi)⟩

theorem strip_eq_self_iff (text : String) : strip text = text ↔ MarkerFree text := by
  rw [← String.toList_inj, toList_strip]
  exact plain_eq_self_iff text.toList

/-! ### Seams -/

/-- A marker was removed in front of place `j` of what is left. -/
def Seam (cs : List Char) (j : Nat) : Prop :=
  ∃ p, (markAt? cs p).isSome ∧ (cutAtMarkers (cs.take p)).plain.length = j

theorem marker?_take {cs : List Char} (h : marker? cs = none) (n : Nat) :
    marker? (cs.take n) = none := by
  cases hmark : marker? (cs.take n) with
  | none => rfl
  | some m =>
    obtain ⟨c, tail⟩ := m
    have hlonger := marker?_append hmark (cs.drop n)
    rw [List.take_append_drop, h] at hlonger
    cases hlonger

theorem Seam.cons {x : Char} {cs : List Char} (h : marker? (x :: cs) = none) {j : Nat}
    (hseam : Seam cs j) : Seam (x :: cs) (j + 1) := by
  obtain ⟨p, hmark, hleft⟩ := hseam
  have hbefore := marker?_take h (p + 1)
  rw [List.take_succ_cons] at hbefore
  refine ⟨p + 1, hmark, ?_⟩
  rw [List.take_succ_cons, plain_cons hbefore, List.length_cons, hleft]

section Marker

variable {c : Char} (hc : isMarkerChar c = true) (rest : List Char)

include hc

theorem Seam.marker {j : Nat} (hseam : Seam rest j) :
    Seam ('[' :: '[' :: c :: ']' :: ']' :: rest) j := by
  obtain ⟨p, hmark, hleft⟩ := hseam
  refine ⟨p + 5, ?_, ?_⟩
  · rw [Nat.add_comm, markAt?_add]
    exact hmark
  · have htake : ('[' :: '[' :: c :: ']' :: ']' :: rest).take (p + 5) =
        '[' :: '[' :: c :: ']' :: ']' :: rest.take p := rfl
    rw [htake, plain_marker hc, hleft]

theorem seam_marker_start : Seam ('[' :: '[' :: c :: ']' :: ']' :: rest) 0 := by
  refine ⟨0, ?_, ?_⟩
  · rw [markAt?_start hc rest]
    rfl
  · rw [List.take_zero, plain_nil]
    rfl

end Marker

/- Up to the first seam, what is left is the text itself. -/
theorem prefix_or_seam (front cs : List Char) (h : front <+: (cutAtMarkers cs).plain) :
    front <+: cs ∨ ∃ j < front.length, Seam cs j := by
  induction cs using cutAtMarkers.induct generalizing front with
  | case1 cs c rest hmark hshorter ih =>
    obtain ⟨rfl, hc⟩ := marker?_eq_some_iff.mp hmark
    cases front with
    | nil => exact .inl List.nil_prefix
    | cons y front => exact .inr ⟨0, Nat.succ_pos _, seam_marker_start hc rest⟩
  | case2 =>
    rw [plain_nil] at h
    exact .inl h
  | case3 x rest hnone ih =>
    rw [plain_cons hnone] at h
    cases front with
    | nil => exact .inl List.nil_prefix
    | cons y front =>
      obtain ⟨hyx, hrest⟩ := List.cons_prefix_cons.mp h
      rcases ih front hrest with hfront | ⟨j, hj, hseam⟩
      · exact .inl (List.cons_prefix_cons.mpr ⟨hyx, hfront⟩)
      · exact .inr ⟨j + 1, Nat.succ_lt_succ hj, hseam.cons hnone⟩

theorem markAt?_zero_eq_some_iff (cs : List Char) (c : Char) :
    markAt? cs 0 = some c ↔ ['[', '[', c, ']', ']'] <+: cs ∧ isMarkerChar c = true := by
  rw [markAt?_eq_some_iff, List.drop_zero]
  constructor
  · intro h
    obtain ⟨rest, hrest⟩ := h
    obtain ⟨htext, hc⟩ := marker?_eq_some_iff.mp hrest
    exact ⟨⟨rest, htext.symm⟩, hc⟩
  · intro h
    obtain ⟨⟨rest, hrest⟩, hc⟩ := h
    exact ⟨rest, marker?_eq_some_iff.mpr ⟨hrest.symm, hc⟩⟩

theorem seam_of_mark (cs : List Char) (i : Nat)
    (h : (markAt? (cutAtMarkers cs).plain i).isSome) : ∃ j, i < j ∧ j < i + 5 ∧ Seam cs j := by
  induction cs using cutAtMarkers.induct generalizing i with
  | case1 cs c rest hmark hshorter ih =>
    obtain ⟨rfl, hc⟩ := marker?_eq_some_iff.mp hmark
    rw [plain_marker hc rest] at h
    obtain ⟨j, hij, hj, hseam⟩ := ih i h
    exact ⟨j, hij, hj, hseam.marker hc rest⟩
  | case2 =>
    rw [plain_nil, markAt?, List.drop_nil] at h
    cases h
  | case3 x rest hnone ih =>
    rw [plain_cons hnone] at h
    cases i with
    | succ i =>
      obtain ⟨j, hij, hj, hseam⟩ := ih i h
      exact ⟨j + 1, by omega, by omega, hseam.cons hnone⟩
    | zero =>
      obtain ⟨c, hmark⟩ := Option.isSome_iff_exists.mp h
      obtain ⟨hfront, hc⟩ := (markAt?_zero_eq_some_iff _ c).mp hmark
      obtain ⟨hx, hrest⟩ := List.cons_prefix_cons.mp hfront
      rcases prefix_or_seam _ rest hrest with hsame | ⟨j, hj, hseam⟩
      · -- The text itself would start with a marker.
        have hstart := (markAt?_zero_eq_some_iff (x :: rest) c).mpr
          ⟨List.cons_prefix_cons.mpr ⟨hx, hsame⟩, hc⟩
        rw [markAt?_zero_of_none hnone] at hstart
        cases hstart
      · have hfour : j < 4 := hj
        exact ⟨j + 1, by omega, by omega, hseam.cons hnone⟩

/-! ### Markers apart from brackets -/

/-- No marker has a closing bracket right behind it, or an opening one right in front. -/
def Separated (cs : List Char) : Prop :=
  ∀ p < cs.length, (markAt? cs p).isSome →
    cs[p + 5]? ≠ some ']' ∧ (0 < p → cs[p - 1]? ≠ some '[')

instance (cs : List Char) : Decidable (Separated cs) :=
  inferInstanceAs (Decidable (∀ p < cs.length, (markAt? cs p).isSome →
    cs[p + 5]? ≠ some ']' ∧ (0 < p → cs[p - 1]? ≠ some '[')))

theorem Separated.drop {cs : List Char} (h : Separated cs) (n : Nat) : Separated (cs.drop n) := by
  intro p hp hmark
  rw [List.length_drop] at hp
  rw [← markAt?_add] at hmark
  obtain ⟨hbehind, hfront⟩ := h (n + p) (by omega) hmark
  refine ⟨?_, ?_⟩
  · rw [List.getElem?_drop]
    exact hbehind
  · intro hpos
    have hplace : n + p - 1 = n + (p - 1) := by omega
    rw [List.getElem?_drop, ← hplace]
    exact hfront (by omega)

theorem Separated.behind_bracket {rest : List Char} (h : Separated ('[' :: rest)) :
    marker? rest = none := by
  cases hmark : marker? rest with
  | none => rfl
  | some m =>
    obtain ⟨c, tail⟩ := m
    have hlength := length_marker? hmark
    have hplace : (markAt? ('[' :: rest) 1).isSome := by
      rw [Option.isSome_iff_exists]
      exact ⟨c, (markAt?_eq_some_iff _ 1 c).mpr ⟨tail, hmark⟩⟩
    obtain ⟨-, hfront⟩ := h 1 (by simp only [List.length_cons]; omega) hplace
    exact absurd rfl (hfront Nat.one_pos)

theorem Separated.behind_marker {c : Char} (hc : isMarkerChar c = true) {rest : List Char}
    (h : Separated ('[' :: '[' :: c :: ']' :: ']' :: rest)) : rest.head? ≠ some ']' := by
  have hplace : (markAt? ('[' :: '[' :: c :: ']' :: ']' :: rest) 0).isSome := by
    rw [markAt?_start hc rest]
    rfl
  obtain ⟨hbehind, -⟩ := h 0 (Nat.succ_pos _) hplace
  rw [List.head?_eq_getElem?]
  exact hbehind

theorem exists_cons_of_plain {y : Char} {cs more : List Char} (hnone : marker? cs = none)
    (h : (cutAtMarkers cs).plain = y :: more) :
    ∃ rest, cs = y :: rest ∧ (cutAtMarkers rest).plain = more := by
  cases cs with
  | nil =>
    rw [plain_nil] at h
    cases h
  | cons x rest =>
    rw [plain_cons hnone] at h
    cases h
    exact ⟨rest, rfl, rfl⟩

theorem Separated.exists_closing {cs more : List Char} (hsep : Separated cs)
    (h : (cutAtMarkers cs).plain = ']' :: more) :
    ∃ rest, cs = ']' :: rest ∧ (cutAtMarkers rest).plain = more := by
  induction cs using cutAtMarkers.induct with
  | case1 cs c rest hmark hshorter ih =>
    obtain ⟨rfl, hc⟩ := marker?_eq_some_iff.mp hmark
    rw [plain_marker hc rest] at h
    obtain ⟨tail, rfl, -⟩ := ih (hsep.drop 5) h
    exact absurd rfl (hsep.behind_marker hc)
  | case2 => exact exists_cons_of_plain rfl h
  | case3 x rest hnone ih => exact exists_cons_of_plain hnone h

/- Between the brackets of a marker that is left over, nothing was removed. -/
theorem Separated.plain_no_mark {cs : List Char} (hsep : Separated cs) (i : Nat) :
    markAt? (cutAtMarkers cs).plain i = none := by
  induction cs using cutAtMarkers.induct generalizing i with
  | case1 cs c rest hmark hshorter ih =>
    obtain ⟨rfl, hc⟩ := marker?_eq_some_iff.mp hmark
    rw [plain_marker hc rest]
    exact ih (hsep.drop 5) i
  | case2 =>
    rw [plain_nil, markAt?, List.drop_nil]
    rfl
  | case3 x rest hnone ih =>
    rw [plain_cons hnone]
    cases i with
    | succ i => exact ih (hsep.drop 1) i
    | zero =>
      cases hmark : markAt? (x :: (cutAtMarkers rest).plain) 0 with
      | none => rfl
      | some c =>
        obtain ⟨⟨more, hmore⟩, hc⟩ := (markAt?_zero_eq_some_iff _ c).mp hmark
        obtain ⟨rfl, hplain⟩ := List.cons.inj hmore
        obtain ⟨second, rfl, hsecond⟩ := exists_cons_of_plain hsep.behind_bracket hplain.symm
        have hnext := hsep.drop 1
        obtain ⟨third, rfl, hthird⟩ := exists_cons_of_plain hnext.behind_bracket hsecond
        obtain ⟨fourth, rfl, hfourth⟩ := (hnext.drop 2).exists_closing hthird
        obtain ⟨fifth, rfl, -⟩ := (hnext.drop 3).exists_closing hfourth
        have hstart := markAt?_start hc fifth
        rw [markAt?_zero_of_none hnone] at hstart
        cases hstart

/-! ### Stripped texts -/

/-- Stripping removes the characters of all markers and keeps the others. A marker in what is left
reaches over a seam, and there is none if no marker of the text is next to a bracket. Stripping
again changes nothing exactly when no marker is left. -/
theorem strip_marks_at_seams (text : String) :
    (strip text).toList = uncovered text.toList ∧
    (∀ i, (markAt? (strip text).toList i).isSome →
      ∃ j, i < j ∧ j < i + 5 ∧ Seam text.toList j) ∧
    (Separated text.toList → MarkerFree (strip text)) ∧
    (strip (strip text) = strip text ↔ MarkerFree (strip text)) := by
  refine ⟨?_, ?_, ?_, strip_eq_self_iff (strip text)⟩
  · rw [toList_strip, plain_eq_uncovered]
  · intro i h
    rw [toList_strip] at h
    exact seam_of_mark text.toList i h
  · intro hsep i _
    rw [toList_strip]
    exact hsep.plain_no_mark i

/- The first text leaves a marker over the seam between its brackets; in the second one brackets
stand apart from the markers, which follow one another. -/
theorem strip_marks_at_seams_brackets :
    (markAt? (strip "x[[[[a]]b]]").toList 1).isSome ∧
    (∃ j, 1 < j ∧ j < 1 + 5 ∧ Seam "x[[[[a]]b]]".toList j) ∧
    Separated "[ [[a]]b[[*]][[/]] ]".toList ∧ MarkerFree (strip "[ [[a]]b[[*]][[/]] ]") := by
  have hmark : (markAt? (strip "x[[[[a]]b]]").toList 1).isSome := by decide +kernel
  have hsep : Separated "[ [[a]]b[[*]][[/]] ]".toList := by decide +kernel
  obtain ⟨-, hseam, -, -⟩ := strip_marks_at_seams "x[[[[a]]b]]"
  obtain ⟨-, -, hfree, -⟩ := strip_marks_at_seams "[ [[a]]b[[*]][[/]] ]"
  exact ⟨hmark, hseam 1 hmark, hsep, hfree hsep⟩

/-- What is left of a text can hold a marker, which stripping again removes. -/
theorem strip_leaves_marker :
    strip "[[[[a]]b]]" = "[[b]]" ∧ ¬MarkerFree (strip "[[[[a]]b]]") ∧
      strip (strip "[[[[a]]b]]") ≠ strip "[[[[a]]b]]" := by
  decide +kernel

end MarkupLog.Markup
