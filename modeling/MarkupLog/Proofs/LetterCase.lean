import Mathlib.Data.List.Forall2
import MarkupLog.Text.Case

/-!
# Full case mappings

The case maps of this library change only what can be part of a name, and names are ASCII. A full
case mapping changes more characters, and may change one by where it stands; but a text that either
of the two makes ASCII is made the same by both.
-/

namespace MarkupLog.Text

def IsAscii (cs : List Char) : Prop :=
  ∀ c ∈ cs, c.toNat < 128

/-! ### Images -/

/- The image of a character is settled by the map, or it is not ASCII. -/
theorem image_unique {settled : Prop} [Decidable settled] {image other known : List Char}
    (h : if settled then image = known else ∃ x ∈ image, 128 ≤ x.toNat)
    (hother : if settled then other = known else ∃ x ∈ other, 128 ≤ x.toNat)
    (hascii : IsAscii other) : image = other := by
  split at h
  · rename_i hsettled
    rw [if_pos hsettled] at hother
    rw [h, hother]
  · rename_i hsettled
    rw [if_neg hsettled] at hother
    obtain ⟨x, hx, hcode⟩ := hother
    exact absurd (hascii x hx) (Nat.not_lt.mpr hcode)

/-- Where an image of a character is ASCII, the character has no other image. -/
def Unambiguous (Image : Char → List Char → Prop) : Prop :=
  ∀ c image other, Image c image → Image c other → IsAscii other → image = other

variable {Image : Char → List Char → Prop}

/- Character by character, from the images that are ASCII. -/
theorem Unambiguous.images_eq (hImage : Unambiguous Image) {cs : List Char}
    {images others : List (List Char)} (h : List.Forall₂ Image cs images)
    (hothers : List.Forall₂ Image cs others) (hascii : IsAscii others.flatten) :
    images = others := by
  induction h generalizing others with
  | nil => cases hothers; rfl
  | cons himage _ ih =>
    cases hothers with
    | cons hother hrest =>
      rw [List.flatten_cons, IsAscii, List.forall_mem_append] at hascii
      rw [hImage _ _ _ himage hother hascii.1, ih hrest hascii.2]

theorem exists_images {map : Char → List Char} (h : ∀ c, Image c (map c)) (s : String) :
    ∃ images, List.Forall₂ Image s.toList images ∧
      String.ofList (s.toList.flatMap map) = String.ofList images.flatten := by
  refine ⟨s.toList.map map, ?_, ?_⟩
  · rw [List.forall₂_map_right_iff, List.forall₂_same]
    exact fun c _ => h c
  · rw [List.flatMap_def]

theorem Unambiguous.text_eq (hImage : Unambiguous Image) {s mapped other : String}
    (h : ∃ images, List.Forall₂ Image s.toList images ∧ mapped = String.ofList images.flatten)
    (hother : ∃ images, List.Forall₂ Image s.toList images ∧ other = String.ofList images.flatten)
    (hascii : IsAscii other.toList) : mapped = other := by
  obtain ⟨images, himages, hmapped⟩ := h
  obtain ⟨others, hothers, hsame⟩ := hother
  rw [hsame, String.toList_ofList] at hascii
  rw [hmapped, hsame, hImage.images_eq himages hothers hascii]

/-! ### Lower case -/

/-- What a full lower-casing may make of a character. Of the characters outside ASCII, only the
Kelvin sign becomes ASCII. -/
def LowerImage (c : Char) (image : List Char) : Prop :=
  if c.toNat < 128 ∨ c = '\u212A' then image = lowerChar c else ∃ x ∈ image, 128 ≤ x.toNat

/-- A full lower-casing, in which the image of a character may depend on where it stands. -/
def Lowers (lower : String → String) : Prop :=
  ∀ s, ∃ images, List.Forall₂ LowerImage s.toList images ∧ lower s = String.ofList images.flatten

theorem lowerImage_lowerChar (c : Char) : LowerImage c (lowerChar c) := by
  unfold LowerImage
  by_cases h : c.toNat < 128 ∨ c = '\u212A'
  · rw [if_pos h]
  · rw [if_neg h]
    obtain ⟨hcode, hkelvin⟩ := not_or.mp h
    have hcapital : ¬('A' ≤ c ∧ c ≤ 'Z') := by
      intro hc
      have hle : c.toNat ≤ 'Z'.toNat := hc.2
      have hz : 'Z'.toNat = 90 := rfl
      omega
    unfold lowerChar
    rw [if_neg hcapital, if_neg hkelvin]
    by_cases hdotted : c = '\u0130'
    · rw [if_pos hdotted]
      exact ⟨'\u0307', by simp, by decide⟩
    · rw [if_neg hdotted]
      exact ⟨c, List.mem_singleton_self c, by omega⟩

theorem lowers_lower : Lowers lower :=
  exists_images lowerImage_lowerChar

theorem unambiguous_lowerImage : Unambiguous LowerImage :=
  fun _ _ _ h hother => image_unique h hother

theorem Lowers.eq_of_ascii {lower other : String → String} (h : Lowers lower)
    (hother : Lowers other) {s : String} (hascii : IsAscii (other s).toList) : lower s = other s :=
  unambiguous_lowerImage.text_eq (h s) (hother s) hascii

/-! ### Upper case -/

/-- The characters outside ASCII that become ASCII in upper case: the sharp s, the dotless i, the
long s, and the ligatures of f and of s and t. -/
def becomeAscii : List Char :=
  ['\u00DF', '\u0131', '\u017F', '\uFB00', '\uFB01', '\uFB02', '\uFB03', '\uFB04', '\uFB05',
    '\uFB06']

/-- What a full upper-casing may make of a character. -/
def UpperImage (c : Char) (image : List Char) : Prop :=
  if c.toNat < 128 ∨ c ∈ becomeAscii then image = upperChar c else ∃ x ∈ image, 128 ≤ x.toNat

/-- A full upper-casing, in which the image of a character may depend on where it stands. -/
def Uppers (upper : String → String) : Prop :=
  ∀ s, ∃ images, List.Forall₂ UpperImage s.toList images ∧ upper s = String.ofList images.flatten

theorem mem_of_lookup {κ α : Type} [BEq κ] [LawfulBEq κ] {table : List (κ × α)} {key : κ}
    {value : α} (h : table.lookup key = some value) : (key, value) ∈ table := by
  obtain ⟨before, after, htable, -⟩ := List.lookup_eq_some_iff.mp h
  rw [htable]
  exact List.mem_append_right before (List.mem_cons_self ..)

/- A character is changed like the small letters of ASCII, changed as the table says, or kept. -/
theorem upperChar_cases (c : Char) :
    (97 ≤ c.toNat ∧ c.toNat ≤ 122 ∧ upperChar c = [Char.ofNat (c.toNat - 32)]) ∨
      (c, upperChar c) ∈ upperImages ∨ upperChar c = [c] := by
  unfold upperChar
  by_cases hsmall : 'a' ≤ c ∧ c ≤ 'z'
  · rw [if_pos hsmall]
    exact .inl ⟨hsmall.1, hsmall.2, rfl⟩
  · rw [if_neg hsmall]
    cases himage : upperImages.lookup c with
    | none => exact .inr (.inr rfl)
    | some image => exact .inr (.inl (mem_of_lookup himage))

theorem upperImage_upperChar (c : Char) : UpperImage c (upperChar c) := by
  unfold UpperImage
  by_cases h : c.toNat < 128 ∨ c ∈ becomeAscii
  · rw [if_pos h]
  · rw [if_neg h]
    obtain ⟨hcode, hnever⟩ := not_or.mp h
    have htable : ∀ p ∈ upperImages, p.1 ∈ becomeAscii ∨
        p.2.any (fun x => 128 ≤ x.toNat) = true := by
      decide
    rcases upperChar_cases c with ⟨-, hle, -⟩ | hlisted | hkept
    · omega
    · simpa using (htable _ hlisted).resolve_left hnever
    · rw [hkept]
      exact ⟨c, List.mem_singleton_self c, by omega⟩

theorem uppers_upper : Uppers upper :=
  exists_images upperImage_upperChar

theorem unambiguous_upperImage : Unambiguous UpperImage :=
  fun _ _ _ h hother => image_unique h hother

theorem Uppers.eq_of_ascii {upper other : String → String} (h : Uppers upper)
    (hother : Uppers other) {s : String} (hascii : IsAscii (other s).toList) : upper s = other s :=
  unambiguous_upperImage.text_eq (h s) (hother s) hascii

end MarkupLog.Text
