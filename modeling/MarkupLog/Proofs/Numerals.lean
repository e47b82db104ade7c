import Mathlib.Data.List.Induction
import Mathlib.Data.Nat.Digits.Defs
import MarkupLog.Proofs.LetterCase
import MarkupLog.Text.Digit

/-!
# Numerals

A numeral is a run of decimal digits, of whatever script, and writes the number that they make in
base ten. A run of digits is no numeral as soon as one of them has no place value. Letter case is of
no matter to digits: a text is made of digits in upper case just when it is so from the start.
-/

namespace MarkupLog.Text

/-! ### Numerals -/

/-- The characters are the decimal digits of the number, the most significant one first. -/
def IsNumeral (cs : List Char) (n : Nat) : Prop :=
  cs ≠ [] ∧ ∃ digits, cs.mapM digitValue? = some digits ∧ Nat.ofDigits 10 digits.reverse = n

theorem decimalValue?_concat (cs : List Char) (c : Char) :
    decimalValue? (cs ++ [c]) =
      (decimalValue? cs).bind fun n => (digitValue? c).map fun d => 10 * n + d :=
  List.foldl_concat ..

/- By induction on the characters, the last one first: it is the least significant digit. -/
theorem decimalValue?_eq (cs : List Char) :
    decimalValue? cs = (cs.mapM digitValue?).map fun digits => Nat.ofDigits 10 digits.reverse := by
  induction cs using List.reverseRecOn with
  | nil => rfl
  | append_singleton cs c ih =>
    rw [decimalValue?_concat, ih, List.mapM_append]
    cases cs.mapM digitValue? with
    | none => rfl
    | some digits =>
      cases hc : digitValue? c with
      | none => simp [hc]
      | some d => simp [hc, Nat.ofDigits_cons, Nat.add_comm]

theorem decimalValue?_eq_none_iff (cs : List Char) :
    decimalValue? cs = none ↔ ∃ c ∈ cs, digitValue? c = none := by
  induction cs using List.reverseRecOn with
  | nil => simp [decimalValue?]
  | append_singleton cs c ih =>
    rw [decimalValue?_concat]
    cases hcs : decimalValue? cs with
    | none =>
      obtain ⟨x, hx, hnone⟩ := ih.mp hcs
      exact iff_of_true rfl ⟨x, List.mem_append_left _ hx, hnone⟩
    | some n =>
      have hvalues : ∀ x ∈ cs, digitValue? x ≠ none := fun x hx hnone =>
        nomatch hcs.symm.trans (ih.mpr ⟨x, hx, hnone⟩)
      simp only [Option.bind_some, Option.map_eq_none_iff, List.mem_append, List.mem_singleton]
      constructor
      · exact fun hc => ⟨c, .inr rfl, hc⟩
      · rintro ⟨x, hx | rfl, hnone⟩
        · exact absurd hnone (hvalues x hx)
        · exact hnone

theorem digitValue?_ne_none {cs : List Char} {n : Nat} (h : decimalValue? cs = some n) :
    ∀ c ∈ cs, digitValue? c ≠ none := by
  intro c hc hnone
  have hfails := (decimalValue?_eq_none_iff cs).mpr ⟨c, hc, hnone⟩
  exact nomatch h.symm.trans hfails

theorem isNumeral_iff {cs : List Char} (h : cs ≠ []) (n : Nat) :
    IsNumeral cs n ↔ decimalValue? cs = some n := by
  rw [decimalValue?_eq, Option.map_eq_some_iff]
  exact and_iff_right h

/-! ### Digits -/

theorem isDigit_of_digitValue? {c : Char} (h : digitValue? c ≠ none) : isDigit c = true := by
  have hfound : (decimalDigits.start? c.toNat).isSome = true := by
    rw [Option.isSome_iff_ne_none]
    intro hnone
    rw [digitValue?, hnone] at h
    exact h rfl
  rw [Ranges.start?, Option.isSome_map, List.find?_isSome] at hfound
  have hhas : decimalDigits.has c.toNat = true := List.any_eq_true.mpr hfound
  rw [isDigit, hhas, Bool.true_or]

theorem IsNumeral.isDigit {cs : List Char} {n : Nat} (h : IsNumeral cs n) :
    ∀ c ∈ cs, isDigit c = true := by
  intro c hc
  have hvalue := (isNumeral_iff h.1 n).mp h
  exact isDigit_of_digitValue? (digitValue?_ne_none hvalue c hc)

/- No block of digits reaches into the letters of ASCII. -/
theorem isDigit_letter {c : Char} (hlow : 65 ≤ c.toNat) (hhigh : c.toNat ≤ 122) :
    isDigit c = false := by
  have hblocks : ∀ r ∈ decimalDigits ++ otherDigits, r.2 < 65 ∨ 122 < r.1 := by decide
  rw [Bool.eq_false_iff, isDigit, ne_eq, Bool.or_eq_true, Ranges.has_iff, Ranges.has_iff]
  rintro (⟨r, hr, hle⟩ | ⟨r, hr, hle⟩)
  · have hblock := hblocks r (List.mem_append_left _ hr)
    omega
  · have hblock := hblocks r (List.mem_append_right _ hr)
    omega

/-! ### Digits in upper case -/

theorem upperChar_digit (c : Char) :
    upperChar c = [c] ∨ isDigit c = false ∧ ∃ x ∈ upperChar c, isDigit x = false := by
  rcases upperChar_cases c with ⟨hlow, hhigh, himage⟩ | hlisted | hkept
  · have hcode : (Char.ofNat (c.toNat - 32)).toNat = c.toNat - 32 := by
      rw [Char.ofNat, dif_pos (.inl (by omega))]
      rfl
    refine .inr ⟨isDigit_letter (by omega) hhigh, Char.ofNat (c.toNat - 32), ?_, ?_⟩
    · rw [himage]
      exact List.mem_singleton_self _
    · exact isDigit_letter (by omega) (by omega)
  · have htable : ∀ p ∈ upperImages, isDigit p.1 = false ∧
        p.2.any (fun x => !isDigit x) = true := by
      decide +kernel
    obtain ⟨hsource, himage⟩ := htable _ hlisted
    exact .inr ⟨hsource, by simpa using himage⟩
  · exact .inl hkept

/- Character by character. -/
theorem flatMap_upperChar_of_digits {cs : List Char} (h : ∀ c ∈ cs, isDigit c = true) :
    cs.flatMap upperChar = cs := by
  induction cs with
  | nil => rfl
  | cons c rest ih =>
    rw [List.forall_mem_cons] at h
    rw [List.flatMap_cons, ih h.2]
    rcases upperChar_digit c with hkept | ⟨hletter, -⟩
    · rw [hkept, List.singleton_append]
    · exact nomatch h.1.symm.trans hletter

theorem digits_of_flatMap_upperChar {cs : List Char}
    (h : ∀ x ∈ cs.flatMap upperChar, isDigit x = true) : ∀ c ∈ cs, isDigit c = true := by
  intro c hc
  have himage : ∀ x ∈ upperChar c, isDigit x = true := fun x hx =>
    h x (List.mem_flatMap.mpr ⟨c, hc, hx⟩)
  rcases upperChar_digit c with hkept | ⟨-, x, hx, hletter⟩
  · exact himage c (hkept ▸ List.mem_singleton_self c)
  · exact nomatch (himage x hx).symm.trans hletter

theorem upper_of_digits {s : String} (h : ∀ c ∈ s.toList, isDigit c = true) : upper s = s := by
  rw [upper, flatMap_upperChar_of_digits h, String.ofList_toList]

theorem digits_of_upper {s : String} (h : ∀ c ∈ (upper s).toList, isDigit c = true) :
    ∀ c ∈ s.toList, isDigit c = true := by
  rw [upper, String.toList_ofList] at h
  exact digits_of_flatMap_upperChar h

end MarkupLog.Text
