import MarkupLog.Proofs.Segments

/-!
# Merging as a normal form

Two lists of segments merge to the same list exactly when they have the same colored characters. So
it does not matter in which order segments are merged: one after another, with only the last merged
one in hand, or in parts that were merged before.
-/

namespace MarkupLog.Segment

/-! ### What merging gives -/

theorem painted_append (s t : List Segment) : painted (s ++ t) = painted s ++ painted t := by
  unfold painted
  exact List.flatMap_append

theorem merge_eq_iff (s u : List Segment) : merge s = u ↔ Merged u ∧ painted u = painted s := by
  constructor
  · intro h
    subst h
    exact ⟨merged_merge s, painted_merge s⟩
  · intro h
    have hpainted : painted (merge s) = painted u := by rw [painted_merge, h.2]
    exact (merged_merge s).eq_of_painted h.1 hpainted

theorem merge_eq_merge_iff (s t : List Segment) : merge s = merge t ↔ painted s = painted t := by
  rw [merge_eq_iff, painted_merge]
  constructor
  · intro h
    exact h.2.symm
  · intro h
    exact ⟨merged_merge t, h.symm⟩

/-! ### From left to right -/

/-- Merged segments with one more behind them: of the merged ones only the last can change. -/
def extend (merged : List Segment) (s : Segment) : List Segment :=
  if s.text = "" then merged
  else
    match merged.getLast? with
    | some last =>
      if last.color = s.color then merged.dropLast ++ [⟨s.color, last.text ++ s.text⟩]
      else merged ++ [s]
    | none => [s]

theorem extend_nil (s : Segment) (hs : s.text ≠ "") : extend [] s = [s] := by
  unfold extend
  rw [if_neg hs]
  rfl

theorem extend_concat (init : List Segment) (last s : Segment) (hs : s.text ≠ "") :
    extend (init ++ [last]) s =
      if last.color = s.color then init ++ [⟨s.color, last.text ++ s.text⟩]
      else init ++ [last] ++ [s] := by
  unfold extend
  rw [if_neg hs, List.getLast?_concat, List.dropLast_concat]

theorem painted_extend (merged : List Segment) (s : Segment) :
    painted (extend merged s) = painted (merged ++ [s]) := by
  by_cases hs : s.text = ""
  · have hnothing : painted [s] = [] := by simp [hs]
    rw [extend, if_pos hs, painted_append, hnothing, List.append_nil]
  · rcases List.eq_nil_or_concat' merged with rfl | ⟨init, last, rfl⟩
    · rw [extend_nil s hs, List.nil_append]
    · rw [extend_concat init last s hs]
      by_cases hcolor : last.color = s.color
      · rw [if_pos hcolor]
        simp [painted_append, hcolor]
      · rw [if_neg hcolor]

theorem merged_concat (init : List Segment) (s : Segment) :
    Merged (init ++ [s]) ↔
      Merged init ∧ s.text ≠ "" ∧ ∀ last ∈ init.getLast?, last.color ≠ s.color := by
  constructor
  · intro h
    obtain ⟨hnonempty, hdistinct⟩ := h
    rw [List.forall_mem_append, List.forall_mem_singleton] at hnonempty
    rw [List.isChain_append] at hdistinct
    obtain ⟨hinit, -, hlast⟩ := hdistinct
    exact ⟨⟨hnonempty.1, hinit⟩, hnonempty.2, fun last hl => hlast last hl s rfl⟩
  · intro h
    obtain ⟨hinit, hs, hlast⟩ := h
    refine ⟨?_, ?_⟩
    · rw [List.forall_mem_append, List.forall_mem_singleton]
      exact ⟨hinit.nonempty, hs⟩
    · rw [List.isChain_append]
      refine ⟨hinit.distinct, .singleton s, ?_⟩
      intro last hl first hfirst
      cases hfirst
      exact hlast last hl

theorem merged_extend (merged : List Segment) (s : Segment) (h : Merged merged) :
    Merged (extend merged s) := by
  by_cases hs : s.text = ""
  · rw [extend, if_pos hs]
    exact h
  · rcases List.eq_nil_or_concat' merged with rfl | ⟨init, last, rfl⟩
    · rw [extend_nil s hs]
      exact (merged_concat [] s).mpr ⟨merged_nil, hs, fun _ hl => nomatch hl⟩
    · obtain ⟨hinit, hlast, hbefore⟩ := (merged_concat init last).mp h
      rw [extend_concat init last s hs]
      by_cases hcolor : last.color = s.color
      · rw [if_pos hcolor, merged_concat]
        have htext : last.text ++ s.text ≠ "" := append_ne_empty _ _ hlast
        rw [hcolor] at hbefore
        exact ⟨hinit, htext, hbefore⟩
      · rw [if_neg hcolor, merged_concat]
        refine ⟨h, hs, ?_⟩
        intro other hother
        rw [List.getLast?_concat] at hother
        cases hother
        exact hcolor

/- Invariant: what was merged so far is merged, and has the characters that were read. -/
theorem foldl_extend (segments : List Segment) : segments.foldl extend [] = merge segments := by
  have hread : ∀ merged, Merged merged → Merged (segments.foldl extend merged) ∧
      painted (segments.foldl extend merged) = painted (merged ++ segments) := by
    induction segments with
    | nil =>
      intro merged h
      rw [List.foldl_nil, List.append_nil]
      exact ⟨h, rfl⟩
    | cons s rest ih =>
      intro merged h
      obtain ⟨hmerged, hpainted⟩ := ih (extend merged s) (merged_extend merged s h)
      rw [List.foldl_cons]
      refine ⟨hmerged, ?_⟩
      rw [hpainted, painted_append, painted_extend, ← painted_append, List.append_assoc,
        List.singleton_append]
  obtain ⟨hmerged, hpainted⟩ := hread [] merged_nil
  exact ((merge_eq_iff segments _).mpr ⟨hmerged, hpainted⟩).symm

/-! ### The normal form -/

/-- Merging keeps the colored characters and gives the only merged list that has them. Hence it may
be repeated, done in parts, and done from left to right. -/
theorem merge_normal_form (s t : List Segment) :
    (merge s = merge t ↔ painted s = painted t) ∧
    painted (merge s) = painted s ∧
    Merged (merge s) ∧
    merge (merge s) = merge s ∧
    merge (s ++ t) = merge (merge s ++ merge t) ∧
    s.foldl extend [] = merge s := by
  refine ⟨merge_eq_merge_iff s t, painted_merge s, merged_merge s, ?_, ?_, foldl_extend s⟩
  · rw [merge_eq_merge_iff, painted_merge]
  · rw [merge_eq_merge_iff, painted_append, painted_append, painted_merge, painted_merge]

example : merge [⟨none, "a"⟩, ⟨some ⟨.red, true⟩, ""⟩, ⟨none, "b"⟩] = [⟨none, "ab"⟩] := by
  decide

end MarkupLog.Segment
