import Mathlib.Data.List.Chain
import MarkupLog.Markup.Segment

/-!
# Merged segments

A list of segments is merged when no text is empty and no two neighbours have the same color. The
result of merging is merged, and a merged list is determined by its characters and their colors.
-/

namespace MarkupLog.Segment

structure Merged (segments : List Segment) : Prop where
  nonempty : ∀ s ∈ segments, s.text ≠ ""
  distinct : segments.IsChain fun a b => a.color ≠ b.color

theorem merged_nil : Merged [] :=
  ⟨fun _ h => absurd h List.not_mem_nil, .nil⟩

theorem append_ne_empty (a b : String) (ha : a ≠ "") : a ++ b ≠ "" := by
  intro h
  rw [String.append_eq_empty_iff] at h
  exact ha h.1

theorem merged_attach (s : Segment) (rest : List Segment) (hs : s.text ≠ "")
    (h : Merged rest) : Merged (s.attach rest) := by
  cases rest with
  | nil => exact ⟨by simpa [attach] using hs, .singleton s⟩
  | cons t rest =>
    obtain ⟨hnonempty, hdistinct⟩ := h
    rw [List.forall_mem_cons] at hnonempty
    rw [attach]
    by_cases hcolor : s.color = t.color
    · rw [if_pos hcolor]
      refine ⟨?_, ?_⟩
      · rw [List.forall_mem_cons]
        exact ⟨append_ne_empty _ _ hs, hnonempty.2⟩
      · rw [List.isChain_cons] at hdistinct ⊢
        refine ⟨?_, hdistinct.2⟩
        intro u hu
        show s.color ≠ u.color
        rw [hcolor]
        exact hdistinct.1 u hu
    · rw [if_neg hcolor]
      refine ⟨?_, ?_⟩
      · rw [List.forall_mem_cons, List.forall_mem_cons]
        exact ⟨hs, hnonempty⟩
      · exact List.isChain_cons_cons.mpr ⟨hcolor, hdistinct⟩

theorem merged_merge (segments : List Segment) : Merged (merge segments) := by
  induction segments with
  | nil => exact merged_nil
  | cons s rest ih =>
    unfold merge
    by_cases hs : s.text = ""
    · rw [if_pos hs]
      exact ih
    · rw [if_neg hs]
      exact merged_attach s (merge rest) hs ih

/-! ### Merged lists of the same characters -/

/-- The segments of single characters. -/
def singles (cells : List (Char × Option Color)) : List Segment :=
  cells.map fun p => ⟨p.2, String.singleton p.1⟩

theorem attach_attach (color : Option Color) (a b : String) (rest : List Segment) :
    attach ⟨color, a⟩ (attach ⟨color, b⟩ rest) = attach ⟨color, a ++ b⟩ rest := by
  cases rest with
  | nil => simp [attach]
  | cons t rest =>
    by_cases hcolor : color = t.color
    · simp [attach, hcolor, String.append_assoc]
    · simp [attach, hcolor]

theorem attach_of_distinct (s : Segment) (rest : List Segment)
    (h : ∀ t ∈ rest.head?, s.color ≠ t.color) : s.attach rest = s :: rest := by
  cases rest with
  | nil => rfl
  | cons t rest => exact if_neg (h t rfl)

theorem merge_singles_cons (color : Option Color) (c : Char)
    (cells : List (Char × Option Color)) :
    merge (singles ((c, color) :: cells)) =
      attach ⟨color, String.singleton c⟩ (merge (singles cells)) := by
  have hone : String.singleton c ≠ "" := by
    intro h
    have hlist := congrArg String.toList h
    simp at hlist
  exact if_neg hone

/- By induction on the characters: each is attached to the text of those behind it. -/
theorem merge_singles_append (color : Option Color) (cs : List Char) (hcs : cs ≠ [])
    (cells : List (Char × Option Color)) :
    merge (singles ((cs.map fun c => (c, color)) ++ cells)) =
      attach ⟨color, String.ofList cs⟩ (merge (singles cells)) := by
  induction cs with
  | nil => exact absurd rfl hcs
  | cons c cs ih =>
    rw [List.map_cons, List.cons_append, merge_singles_cons]
    by_cases hrest : cs = []
    · subst hrest
      rfl
    · rw [ih hrest, attach_attach, ← String.ofList_cons]

theorem merge_singles_painted (segments : List Segment) (h : Merged segments) :
    merge (singles (painted segments)) = segments := by
  induction segments with
  | nil => rfl
  | cons s rest ih =>
    obtain ⟨hnonempty, hdistinct⟩ := h
    rw [List.forall_mem_cons] at hnonempty
    rw [List.isChain_cons] at hdistinct
    have htext : s.text.toList ≠ [] := by
      intro hnil
      exact hnonempty.1 (String.toList_eq_nil_iff.mp hnil)
    rw [painted_cons, merge_singles_append s.color s.text.toList htext,
      ih ⟨hnonempty.2, hdistinct.2⟩, String.ofList_toList]
    exact attach_of_distinct s rest hdistinct.1

theorem Merged.eq_of_painted {s t : List Segment} (hs : Merged s) (ht : Merged t)
    (h : painted s = painted t) : s = t := by
  rw [← merge_singles_painted s hs, ← merge_singles_painted t ht, h]

end MarkupLog.Segment
