import Mathlib.Algebra.Ring.Nat
import Mathlib.Order.Basic
import Mathlib.Tactic.SplitIfs
import MarkupLog.Text.Utf8

/-!
# Bytes and the texts they encode

Decoding gives a text exactly when the bytes are the encoding of that text, as the library encodes
texts. The bytes after the first one of a character write its number in base 64; a character that is
still being read stands for the numbers that begin with what is read of them.
-/

namespace MarkupLog.Utf8

/-! ### Encoding a character -/

/-- The last bytes of the encoding of a character number, as many as are asked for. -/
def lastBytes (n : Nat) : Nat → List UInt8
  | 0 => []
  | k + 1 => UInt8.ofNat (0x80 + n / 64 ^ k % 64) :: lastBytes n k

theorem length_lastBytes (n k : Nat) : (lastBytes n k).length = k := by
  induction k with
  | zero => rfl
  | succ k ih => simp [lastBytes, ih]

theorem encode_one {c : Char} (h : c.toNat < 0x80) :
    String.utf8EncodeChar c = UInt8.ofNat c.toNat :: lastBytes c.toNat 0 := by
  have hone : c.val.toNat ≤ 127 := by
    rw [Char.toNat_val]
    omega
  unfold String.utf8EncodeChar
  rw [if_pos hone]
  rfl

theorem encode_two {c : Char} (h : 0x80 ≤ c.toNat) (h' : c.toNat < 0x800) :
    String.utf8EncodeChar c = UInt8.ofNat (0xC0 + c.toNat / 64) :: lastBytes c.toNat 1 := by
  have hlead : c.toNat / 64 % 32 + 192 = 0xC0 + c.toNat / 64 := by omega
  unfold String.utf8EncodeChar
  simp only [Char.toNat_val]
  rw [if_neg (by omega), if_pos (by omega), hlead]
  simp only [lastBytes, Nat.add_comm 0x80, Nat.reducePow, Nat.div_one]

theorem encode_three {c : Char} (h : 0x800 ≤ c.toNat) (h' : c.toNat < 0x10000) :
    String.utf8EncodeChar c = UInt8.ofNat (0xE0 + c.toNat / 64 ^ 2) :: lastBytes c.toNat 2 := by
  have hlead : c.toNat / 4096 % 16 + 224 = 0xE0 + c.toNat / 64 ^ 2 := by omega
  unfold String.utf8EncodeChar
  simp only [Char.toNat_val]
  rw [if_neg (by omega), if_neg (by omega), if_pos (by omega), hlead]
  simp only [lastBytes, Nat.add_comm 0x80, Nat.reducePow, Nat.div_one]

theorem encode_four {c : Char} (h : 0x10000 ≤ c.toNat) :
    String.utf8EncodeChar c = UInt8.ofNat (0xF0 + c.toNat / 64 ^ 3) :: lastBytes c.toNat 3 := by
  have hvalid : c.toNat.isValidChar := c.valid
  have hlead : c.toNat / 262144 % 8 + 240 = 0xF0 + c.toNat / 64 ^ 3 := by omega
  unfold String.utf8EncodeChar
  simp only [Char.toNat_val]
  rw [if_neg (by omega), if_neg (by omega), if_neg (by omega), hlead]
  simp only [lastBytes, Nat.add_comm 0x80, Nat.reducePow, Nat.div_one]

/-! ### First bytes -/

variable {b : UInt8} {p : Pending} {n position : Nat} {bytes : List UInt8}

theorem opening?_one (h : b.toNat < 0x80) :
    opening? b = some ⟨b, 1, 0, 0x80, 0xBF, b.toNat⟩ := by
  unfold opening?
  rw [if_pos h]

theorem opening?_two (h : 0xC2 ≤ b.toNat) (h' : b.toNat < 0xE0) :
    opening? b = some ⟨b, 1, 1, 0x80, 0xBF, b.toNat - 0xC0⟩ := by
  unfold opening?
  rw [if_neg (by omega), if_neg (by omega), if_pos h']

theorem opening?_three (h : 0xE0 ≤ b.toNat) (h' : b.toNat < 0xF0) :
    opening? b = some ⟨b, 1, 2, if b.toNat = 0xE0 then 0xA0 else 0x80,
      if b.toNat = 0xED then 0x9F else 0xBF, b.toNat - 0xE0⟩ := by
  by_cases hlow : b.toNat = 0xE0
  · simp only [opening?, hlow]
    rfl
  · by_cases hhigh : b.toNat = 0xED
    · simp only [opening?, hhigh]
      rfl
    · unfold opening?
      rw [if_neg (by omega), if_neg (by omega), if_neg (by omega), if_neg hlow, if_neg hhigh,
        if_pos h', if_neg hlow, if_neg hhigh]

theorem opening?_four (h : 0xF0 ≤ b.toNat) (h' : b.toNat < 0xF5) :
    opening? b = some ⟨b, 1, 3, if b.toNat = 0xF0 then 0x90 else 0x80,
      if b.toNat = 0xF4 then 0x8F else 0xBF, b.toNat - 0xF0⟩ := by
  by_cases hlow : b.toNat = 0xF0
  · simp only [opening?, hlow]
    rfl
  · by_cases hhigh : b.toNat = 0xF4
    · simp only [opening?, hhigh]
      rfl
    · unfold opening?
      rw [if_neg (by omega), if_neg (by omega), if_neg (by omega), if_neg (by omega),
        if_neg (by omega), if_neg (by omega), if_neg hlow, if_pos (by omega), if_neg hlow,
        if_neg hhigh]

theorem opening?_cases (h : opening? b = some p) :
    b.toNat < 0x80 ∨ (0xC2 ≤ b.toNat ∧ b.toNat < 0xE0) ∨ (0xE0 ≤ b.toNat ∧ b.toNat < 0xF0) ∨
      (0xF0 ≤ b.toNat ∧ b.toNat < 0xF5) := by
  by_contra hno
  have hnone : opening? b = none := by
    unfold opening?
    by_cases hcontinues : b.toNat < 0xC2
    · rw [if_neg (by omega), if_pos hcontinues]
    · rw [if_neg (by omega), if_neg hcontinues, if_neg (by omega), if_neg (by omega),
        if_neg (by omega), if_neg (by omega), if_neg (by omega), if_neg (by omega),
        if_neg (by omega)]
  rw [hnone] at h
  cases h

/-- The number begins with what is read of a character, and its next byte, if there is to be one, is
in range. -/
structure Pending.Begins (p : Pending) (n : Nat) : Prop where
  code : n / 64 ^ p.owed = p.code
  next : ∀ k, p.owed = k + 1 →
    p.low ≤ 0x80 + n / 64 ^ k % 64 ∧ 0x80 + n / 64 ^ k % 64 ≤ p.high

theorem ofNat_add_sub {k : Nat} (h : k ≤ b.toNat) : UInt8.ofNat (k + (b.toNat - k)) = b := by
  rw [Nat.add_sub_cancel' h, UInt8.ofNat_toNat]

theorem toNat_ofNat_byte {k : Nat} (h : k < 0x100) : (UInt8.ofNat k).toNat = k := by
  have hsize : k < UInt8.size := h
  exact UInt8.toNat_ofNat_of_lt' hsize

/-- The numbers that begin with a first byte are characters, and the byte is the first one of their
encodings. -/
theorem encode_of_begins (h : opening? b = some p) (hn : p.Begins n) :
    ∃ c : Char, c.toNat = n ∧ String.utf8EncodeChar c = b :: lastBytes n p.owed := by
  have hchar {k : Nat} (hk : k.isValidChar) : (Char.ofNat k).toNat = k := by
    rw [Char.ofNat, dif_pos hk]
    rfl
  obtain ⟨hcode, hnext⟩ := hn
  rcases opening?_cases h with h1 | ⟨h2, h2'⟩ | ⟨h3, h3'⟩ | ⟨h4, h4'⟩
  · rw [opening?_one h1] at h
    cases h
    simp only [pow_zero, Nat.div_one] at hcode
    have hc : (Char.ofNat n).toNat = n := hchar (by omega)
    refine ⟨Char.ofNat n, hc, ?_⟩
    rw [encode_one (by omega), hc, hcode, UInt8.ofNat_toNat]
  · rw [opening?_two h2 h2'] at h
    cases h
    simp only [pow_one] at hcode
    have hc : (Char.ofNat n).toNat = n := hchar (by omega)
    refine ⟨Char.ofNat n, hc, ?_⟩
    rw [encode_two (by omega) (by omega), hc, hcode, ofNat_add_sub (by omega)]
  · rw [opening?_three h3 h3'] at h
    cases h
    dsimp only at hcode hnext ⊢
    have hrange : 0x800 ≤ n ∧ n < 0x10000 ∧ n.isValidChar := by
      have hsecond := hnext 1 rfl
      split_ifs at hsecond <;> omega
    have hc : (Char.ofNat n).toNat = n := hchar hrange.2.2
    refine ⟨Char.ofNat n, hc, ?_⟩
    rw [encode_three (by omega) (by omega), hc, hcode, ofNat_add_sub h3]
  · rw [opening?_four h4 h4'] at h
    cases h
    dsimp only at hcode hnext ⊢
    have hrange : 0x10000 ≤ n ∧ n.isValidChar := by
      have hsecond := hnext 2 rfl
      split_ifs at hsecond <;> omega
    have hc : (Char.ofNat n).toNat = n := hchar hrange.2
    refine ⟨Char.ofNat n, hc, ?_⟩
    rw [encode_four (by omega), hc, hcode, ofNat_add_sub h4]

theorem exists_begins (c : Char) : ∃ b p, opening? b = some p ∧ p.Begins c.toNat := by
  have hvalid : c.toNat.isValidChar := c.valid
  rcases Nat.lt_or_ge c.toNat 0x80 with h1 | h1
  · have hb := toNat_ofNat_byte (k := c.toNat) (by omega)
    refine ⟨_, _, opening?_one (hb.trans_lt h1), ?_, fun k hk => nomatch hk⟩
    simp only [hb, pow_zero, Nat.div_one]
  rcases Nat.lt_or_ge c.toNat 0x800 with h2 | h2
  · have hb := toNat_ofNat_byte (k := 0xC0 + c.toNat / 64) (by omega)
    refine ⟨_, _, opening?_two (by rw [hb]; omega) (by rw [hb]; omega), ?_, fun k hk => ?_⟩
    · simp only [hb, pow_one]
      omega
    · cases hk
      dsimp only
      omega
  rcases Nat.lt_or_ge c.toNat 0x10000 with h3 | h3
  · have hb := toNat_ofNat_byte (k := 0xE0 + c.toNat / 64 ^ 2) (by omega)
    refine ⟨_, _, opening?_three (by rw [hb]; omega) (by rw [hb]; omega), ?_, fun k hk => ?_⟩
    · simp only [hb]
      omega
    · cases hk
      simp only [hb]
      split_ifs <;> omega
  · have hb := toNat_ofNat_byte (k := 0xF0 + c.toNat / 64 ^ 3) (by omega)
    refine ⟨_, _, opening?_four (by rw [hb]; omega) (by rw [hb]; omega), ?_, fun k hk => ?_⟩
    · simp only [hb]
      omega
    · cases hk
      simp only [hb]
      split_ifs <;> omega

/-! ### The bytes after the first -/

variable {q : Pending} {k : Nat} {chars : List Char}

theorem Pending.next?_eq_some_iff : p.next? b = some q ↔
    (p.low ≤ b.toNat ∧ b.toNat ≤ p.high) ∧
      q = ⟨p.first, p.seen + 1, p.owed - 1, 0x80, 0xBF, 64 * p.code + (b.toNat - 0x80)⟩ := by
  unfold next?
  by_cases h : p.low ≤ b.toNat ∧ b.toNat ≤ p.high
  · simp [h, eq_comm]
  · simp [h]

/-- A number goes on with a byte exactly when that is its byte at this place. -/
theorem Pending.begins_next (h : p.next? b = some q) (howed : p.owed = k + 1)
    (hlow : 0x80 ≤ p.low) (hhigh : p.high ≤ 0xBF) :
    q.Begins n ↔ p.Begins n ∧ UInt8.ofNat (0x80 + n / 64 ^ k % 64) = b := by
  obtain ⟨hrange, rfl⟩ := next?_eq_some_iff.mp h
  have hpower : n / 64 ^ (k + 1) = n / 64 ^ k / 64 := by rw [pow_succ, Nat.div_div_eq_div_mul]
  constructor
  · rintro ⟨hcode, -⟩
    simp only [howed, Nat.add_sub_cancel] at hcode
    have hplace : 0x80 + n / 64 ^ k % 64 = b.toNat := by omega
    refine ⟨⟨?_, fun j hj => ?_⟩, ?_⟩
    · rw [howed, hpower]
      omega
    · cases howed.symm.trans hj
      rw [hplace]
      exact hrange
    · rw [hplace, UInt8.ofNat_toNat]
  · rintro ⟨⟨hcode, -⟩, rfl⟩
    rw [howed, hpower] at hcode
    have hplace := toNat_ofNat_byte (k := 0x80 + n / 64 ^ k % 64) (by omega)
    refine ⟨?_, fun j _ => ⟨?_, ?_⟩⟩
    · simp only [howed, Nat.add_sub_cancel, hplace]
      omega
    · dsimp only
      omega
    · dsimp only
      omega

/-- Decoding once a byte has been read. -/
def decodeAfter (position : Nat) (p : Pending) (bytes : List UInt8) : Except Fault (List Char) :=
  if p.owed = 0 then (decodeFrom position none bytes).map (Char.ofNat p.code :: ·)
  else decodeFrom position (some p) bytes

theorem decodeFrom_none_cons_ok_iff : decodeFrom position none (b :: bytes) = .ok chars ↔
    ∃ p, opening? b = some p ∧ decodeAfter (position + 1) p bytes = .ok chars := by
  unfold decodeFrom decodeAfter
  cases opening? b with
  | none => simp
  | some p => simp

theorem decodeAfter_cons_ok_iff (howed : p.owed = k + 1) :
    decodeAfter position p (b :: bytes) = .ok chars ↔
      ∃ q, p.next? b = some q ∧ decodeAfter (position + 1) q bytes = .ok chars := by
  have hne : p.owed ≠ 0 := by omega
  rw [decodeAfter, if_neg hne]
  unfold decodeFrom decodeAfter
  cases p.next? b with
  | none => simp
  | some q => simp

theorem decodeAfter_nil_ne (howed : p.owed = k + 1) : decodeAfter position p [] ≠ .ok chars := by
  have hne : p.owed ≠ 0 := by omega
  rw [decodeAfter, if_neg hne]
  simp [decodeFrom]

theorem map_cons_ok_iff {c : Char} {result : Except Fault (List Char)} :
    result.map (c :: ·) = .ok chars ↔ ∃ more, chars = c :: more ∧ result = .ok more := by
  cases result with
  | error fault => simp [Except.map]
  | ok more => simp [Except.map, eq_comm]

theorem decodeAfter_zero_ok_iff (howed : p.owed = 0) : decodeAfter position p bytes = .ok chars ↔
    ∃ more, chars = Char.ofNat p.code :: more ∧ decodeFrom position none bytes = .ok more := by
  rw [decodeAfter, if_pos howed, map_cons_ok_iff]

/-- Decoding within a character reads the last bytes of a number that begins with what is read of
it. -/
theorem decodeAfter_ok_iff (howed : p.owed = k) (hlow : 0x80 ≤ p.low) (hhigh : p.high ≤ 0xBF) :
    decodeAfter position p bytes = .ok chars ↔
      ∃ n rest more, p.Begins n ∧ bytes = lastBytes n k ++ rest ∧
        chars = Char.ofNat n :: more ∧ decodeFrom (position + k) none rest = .ok more := by
  induction k generalizing p position bytes with
  | zero =>
    have hbegins (n : Nat) : p.Begins n ↔ n = p.code := by
      refine ⟨fun h => ?_, fun h => ⟨?_, fun k hk => ?_⟩⟩
      · simpa [howed] using h.code
      · simpa [howed] using h
      · exact nomatch howed.symm.trans hk
    rw [decodeAfter_zero_ok_iff howed]
    simp [hbegins, lastBytes]
  | succ k ih =>
    cases bytes with
    | nil => simp [decodeAfter_nil_ne howed, lastBytes]
    | cons b bytes =>
      rw [decodeAfter_cons_ok_iff howed]
      have hnext {q : Pending} (hq : p.next? b = some q) :
          decodeAfter (position + 1) q bytes = .ok chars ↔
            ∃ n rest more, q.Begins n ∧ bytes = lastBytes n k ++ rest ∧
              chars = Char.ofNat n :: more ∧
                decodeFrom (position + 1 + k) none rest = .ok more := by
        obtain ⟨-, rfl⟩ := Pending.next?_eq_some_iff.mp hq
        exact ih (Nat.sub_eq_of_eq_add howed) le_rfl le_rfl
      have hposition : position + 1 + k = position + (k + 1) := by omega
      constructor
      · rintro ⟨q, hq, hrun⟩
        obtain ⟨n, rest, more, hn, rfl, hchars, hrest⟩ := (hnext hq).mp hrun
        obtain ⟨hp, rfl⟩ := (Pending.begins_next hq howed hlow hhigh).mp hn
        exact ⟨n, rest, more, hp, rfl, hchars, hposition ▸ hrest⟩
      · rintro ⟨n, rest, more, hp, hbytes, hchars, hrest⟩
        obtain ⟨rfl, rfl⟩ := List.cons.inj hbytes
        have hplace := toNat_ofNat_byte (k := 0x80 + n / 64 ^ k % 64) (by omega)
        have hrange := hp.next k howed
        have hq := Pending.next?_eq_some_iff.mpr ⟨hplace.symm ▸ hrange, rfl⟩
        have hn := (Pending.begins_next hq howed hlow hhigh).mpr ⟨hp, rfl⟩
        exact ⟨_, hq, (hnext hq).mpr ⟨n, rest, more, hn, rfl, hchars, hposition ▸ hrest⟩⟩

/-! ### Texts -/

theorem opening?_range (h : opening? b = some p) : 0x80 ≤ p.low ∧ p.high ≤ 0xBF := by
  rcases opening?_cases h with h1 | ⟨h2, h2'⟩ | ⟨h3, h3'⟩ | ⟨h4, h4'⟩
  · rw [opening?_one h1] at h
    cases h
    exact ⟨le_rfl, le_rfl⟩
  · rw [opening?_two h2 h2'] at h
    cases h
    exact ⟨le_rfl, le_rfl⟩
  · rw [opening?_three h3 h3'] at h
    cases h
    dsimp only
    constructor <;> split_ifs <;> omega
  · rw [opening?_four h4 h4'] at h
    cases h
    dsimp only
    constructor <;> split_ifs <;> omega

theorem decodeFrom_cons_ok_iff {c : Char} : decodeFrom position none bytes = .ok (c :: chars) ↔
    ∃ rest, bytes = String.utf8EncodeChar c ++ rest ∧
      decodeFrom (position + (String.utf8EncodeChar c).length) none rest = .ok chars := by
  have hposition (b : UInt8) (n k : Nat) :
      position + (b :: lastBytes n k).length = position + 1 + k := by
    rw [List.length_cons, length_lastBytes]
    omega
  constructor
  · intro h
    cases bytes with
    | nil => simp [decodeFrom] at h
    | cons b bytes =>
      obtain ⟨p, hp, hrun⟩ := decodeFrom_none_cons_ok_iff.mp h
      obtain ⟨hlow, hhigh⟩ := opening?_range hp
      obtain ⟨n, rest, more, hn, rfl, hchars, hrest⟩ := (decodeAfter_ok_iff rfl hlow hhigh).mp hrun
      obtain ⟨d, rfl, hencode⟩ := encode_of_begins hp hn
      rw [Char.ofNat_toNat] at hchars
      cases hchars
      rw [hencode, hposition]
      exact ⟨rest, rfl, hrest⟩
  · rintro ⟨rest, rfl, hrest⟩
    obtain ⟨b, p, hp, hn⟩ := exists_begins c
    obtain ⟨hlow, hhigh⟩ := opening?_range hp
    obtain ⟨d, hd, hencode⟩ := encode_of_begins hp hn
    cases Char.toNat_inj.mp hd
    rw [hencode, hposition] at hrest
    rw [hencode]
    refine decodeFrom_none_cons_ok_iff.mpr ⟨p, hp, (decodeAfter_ok_iff rfl hlow hhigh).mpr ?_⟩
    exact ⟨c.toNat, rest, chars, hn, rfl, by rw [Char.ofNat_toNat], hrest⟩

theorem decodeFrom_nil_ok_iff : decodeFrom position none bytes = .ok [] ↔ bytes = [] := by
  cases bytes with
  | nil => simp [decodeFrom]
  | cons b bytes =>
    rw [decodeFrom_none_cons_ok_iff]
    refine ⟨?_, nofun⟩
    rintro ⟨p, hp, hrun⟩
    obtain ⟨hlow, hhigh⟩ := opening?_range hp
    obtain ⟨n, rest, more, -, -, hchars, -⟩ := (decodeAfter_ok_iff rfl hlow hhigh).mp hrun
    cases hchars

theorem decodeFrom_ok_iff : decodeFrom position none bytes = .ok chars ↔
    bytes = chars.flatMap String.utf8EncodeChar := by
  induction chars generalizing position bytes with
  | nil => exact decodeFrom_nil_ok_iff
  | cons c chars ih =>
    rw [decodeFrom_cons_ok_iff, List.flatMap_cons]
    simp only [ih, exists_eq_right]

/-- Decoding gives the text that the bytes encode. -/
theorem decode_ok_iff {text : String} :
    decode bytes = .ok text ↔ bytes.toByteArray = text.toByteArray := by
  have hmap : decode bytes = .ok text ↔ decodeFrom 0 none bytes = .ok text.toList := by
    unfold decode
    cases decodeFrom 0 none bytes with
    | error fault => simp [Except.map]
    | ok chars => simp [Except.map, ← String.toList_inj]
  rw [hmap, decodeFrom_ok_iff, ← String.utf8Encode_toList, List.utf8Encode, List.toByteArray_inj]

theorem decode_error_iff :
    (∃ fault, decode bytes = .error fault) ↔ ¬bytes.toByteArray.IsValidUTF8 := by
  have hvalid : bytes.toByteArray.IsValidUTF8 ↔ ∃ text, decode bytes = .ok text := by
    simp only [decode_ok_iff]
    refine ⟨fun h => ⟨String.ofByteArray _ h, rfl⟩, ?_⟩
    rintro ⟨text, htext⟩
    rw [htext]
    exact text.isValidUTF8
  rw [hvalid]
  cases decode bytes with
  | error fault => simp
  | ok text => simp

end MarkupLog.Utf8
