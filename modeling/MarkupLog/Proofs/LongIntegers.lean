import Mathlib.Algebra.Ring.Int.Defs
import Mathlib.Algebra.Ring.Nat
import MarkupLog.Value

/-!
# Integers without a text

A value has no text exactly when it is an integer of too many decimal digits or holds one, however
deep. The way of quoting strings has no part in it.
-/

namespace MarkupLog.Value

mutual

/-- The integers that a value holds, itself or inside. -/
def integers : Value → List Int
  | .int i => [i]
  | .list items => integersOfItems items
  | .table entries => integersOfEntries entries
  | _ => []

def integersOfItems : List Value → List Int
  | [] => []
  | v :: rest => integers v ++ integersOfItems rest

def integersOfEntries : List (String × Value) → List Int
  | [] => []
  | (_, v) :: rest => integers v ++ integersOfEntries rest

end

/-- A value that is or holds an integer of more decimal digits than a text may have. -/
def HoldsLong (v : Value) : Prop :=
  ∃ i ∈ v.integers, 10 ^ Environment.maxDigits ≤ i.natAbs

theorem tooLong_iff (i : Int) : tooLong i ↔ 10 ^ Environment.maxDigits ≤ i.natAbs := by
  unfold tooLong Number.digitCount Number.decimalText
  rw [decide_eq_true_iff, ← not_le, Nat.length_toDigits_le_iff (by decide) (by decide), not_lt]

theorem shownItems?_cons_eq_none_iff (quote : String → String) (v : Value) (rest : List Value) :
    shownItems? quote (v :: rest) = Option.none ↔
      v.shownWith? quote = Option.none ∨ shownItems? quote rest = Option.none := by
  rw [shownItems?]
  cases v.shownWith? quote <;> cases shownItems? quote rest <;> simp

theorem shownEntries?_cons_eq_none_iff (quote : String → String) (key : String) (v : Value)
    (rest : List (String × Value)) :
    shownEntries? quote ((key, v) :: rest) = Option.none ↔
      v.shownWith? quote = Option.none ∨ shownEntries? quote rest = Option.none := by
  rw [shownEntries?]
  cases v.shownWith? quote <;> cases shownEntries? quote rest <;> simp

mutual

theorem shownWith?_eq_none_iff (quote : String → String) (v : Value) :
    v.shownWith? quote = Option.none ↔ ∃ i ∈ v.integers, tooLong i := by
  cases v with
  | int i => simp [shownWith?, integers]
  | list items =>
    rw [shownWith?, integers, Option.map_eq_none_iff]
    exact shownItems?_eq_none_iff quote items
  | table entries =>
    rw [shownWith?, integers, Option.map_eq_none_iff]
    exact shownEntries?_eq_none_iff quote entries
  | none | bool | float | str | moment => simp [shownWith?, integers]

theorem shownItems?_eq_none_iff (quote : String → String) (items : List Value) :
    shownItems? quote items = Option.none ↔ ∃ i ∈ integersOfItems items, tooLong i := by
  cases items with
  | nil => simp [shownItems?, integersOfItems]
  | cons v rest =>
    rw [shownItems?_cons_eq_none_iff, shownWith?_eq_none_iff quote v,
      shownItems?_eq_none_iff quote rest, integersOfItems]
    simp only [List.mem_append, or_and_right, exists_or]

theorem shownEntries?_eq_none_iff (quote : String → String) (entries : List (String × Value)) :
    shownEntries? quote entries = Option.none ↔ ∃ i ∈ integersOfEntries entries, tooLong i := by
  cases entries with
  | nil => simp [shownEntries?, integersOfEntries]
  | cons entry rest =>
    obtain ⟨key, v⟩ := entry
    rw [shownEntries?_cons_eq_none_iff, shownWith?_eq_none_iff quote v,
      shownEntries?_eq_none_iff quote rest, integersOfEntries]
    simp only [List.mem_append, or_and_right, exists_or]

end

theorem text?_eq_none_iff (v : Value) : v.text? = Option.none ↔ v.HoldsLong := by
  unfold HoldsLong
  simp only [← tooLong_iff]
  cases v with
  | str s => simp [text?, integers]
  | none | bool | int | float | list | table | moment =>
    exact shownWith?_eq_none_iff Text.quoted _

/-- Of a list of values each has a text, or one holds an integer that is too long. -/
theorem texts_eq_none_iff (args : List Value) :
    args.mapM text? = Option.none ↔ ∃ v ∈ args, v.HoldsLong := by
  induction args with
  | nil => simp
  | cons v rest ih =>
    simp only [List.mem_cons, exists_eq_or_imp]
    rw [List.mapM_cons, ← text?_eq_none_iff, ← ih]
    cases v.text? <;> cases rest.mapM text? <;> simp

end MarkupLog.Value
