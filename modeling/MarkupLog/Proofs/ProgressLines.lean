import MarkupLog.Logger.Progress

/-!
# The lines of a progress display

A progress display is *numbered* by its items when each of them owns the line whose number is its
place among the items. A new item takes the next number, so it keeps a display numbered; from the
numbering follows how far above the bottom the line of a known item is.
-/

namespace MarkupLog

namespace Entries

variable {κ α : Type} [DecidableEq κ]

theorem get?_zipIdx (keys : List κ) (n : Nat) (key : κ) :
    get? (keys.zipIdx n) key = if key ∈ keys then some (n + keys.idxOf key) else none := by
  induction keys generalizing n with
  | nil => rfl
  | cons k rest ih =>
    rw [List.zipIdx_cons, get?_cons]
    by_cases hk : k = key
    · subst hk
      rw [if_pos rfl, if_pos (List.mem_cons_self ..), List.idxOf_cons_self, Nat.add_zero]
    · have hne : (k == key) = false := beq_eq_false_iff_ne.mpr hk
      have hindex : (k :: rest).idxOf key = rest.idxOf key + 1 := by
        rw [List.idxOf_cons, hne, cond_false]
      have hmem : key ∈ k :: rest ↔ key ∈ rest := by
        rw [List.mem_cons]
        exact ⟨fun h => h.resolve_left (Ne.symm hk), Or.inr⟩
      rw [if_neg hk, ih (n + 1)]
      simp only [hmem, hindex, Nat.add_assoc, Nat.add_comm 1]

theorem put_of_not_mem (t : Entries κ α) (key : κ) (value : α) (h : key ∉ t.keys) :
    t.put key value = t ++ [(key, value)] := by
  induction t with
  | nil => rfl
  | cons p rest ih =>
    obtain ⟨k, v⟩ := p
    simp only [keys, List.map_cons, List.mem_cons, not_or] at h
    have hk : ¬k = key := fun e => h.1 e.symm
    rw [put, if_neg hk, ih h.2, List.cons_append]

end Entries

namespace Progress

def Numbered (p : Progress) (items : List String) : Prop :=
  p.lines = items.zipIdx

variable {p : Progress} {items : List String} {item : String}

theorem Numbered.distance_new (h : p.Numbered items) (hnew : item ∉ items) :
    p.distance item = 0 := by
  unfold distance
  rw [h, Entries.get?_zipIdx, if_neg hnew]

theorem Numbered.distance_known (h : p.Numbered items) (hknown : item ∈ items) :
    p.distance item = (items.length : Int) - items.idxOf item := by
  unfold distance
  rw [h, Entries.get?_zipIdx, if_pos hknown, List.length_zipIdx, Nat.zero_add]

theorem Numbered.withItem_known (h : p.Numbered items) (hknown : item ∈ items) :
    (p.withItem item).Numbered items := by
  unfold withItem
  rw [h, Entries.get?_zipIdx, if_pos hknown]
  exact h

theorem Numbered.withItem_new (h : p.Numbered items) (hnew : item ∉ items) :
    (p.withItem item).Numbered (items ++ [item]) := by
  have hkeys : item ∉ Entries.keys items.zipIdx := by
    rw [Entries.keys, List.zipIdx_map_fst]
    exact hnew
  unfold withItem
  rw [h, Entries.get?_zipIdx, if_neg hnew]
  show Entries.put items.zipIdx item items.zipIdx.length = (items ++ [item]).zipIdx
  rw [Entries.put_of_not_mem _ _ _ hkeys, List.length_zipIdx, List.zipIdx_append,
    List.zipIdx_singleton, Nat.zero_add]

end Progress

end MarkupLog
