import MarkupLog.Terminal.Sequence

/-!
# Terminals

A terminal reads its input one character at a time. Outside control sequences a character is put
where the terminal stands; the escape character and a bracket open a control sequence, whose digits
are read as one number and whose first other character says what it does. What putting a character
and ending a sequence mean is left to a *device*. The paper is the simplest device: it keeps all
characters in the order of their arrival, each in the foreground that color sequences selected.
-/

namespace MarkupLog.Terminal

/-- A text without control sequences. -/
def EscapeFree (text : String) : Prop :=
  ∀ c ∈ text.toList, c ≠ escape

instance (text : String) : Decidable (EscapeFree text) :=
  decidable_of_iff (text.toList.all fun c => c ≠ escape) (by simp [EscapeFree])

/-! ### Devices -/

structure Device (σ : Type) where
  put : σ → Char → σ
  control : σ → Nat → Char → σ

/-- How far a terminal is in a control sequence; a missing number counts as zero. -/
inductive Mode
  | plain
  | escaped
  | numbered (n : Nat)
  deriving Repr, DecidableEq

namespace Device

variable {σ : Type} (d : Device σ)

def read : Mode × σ → Char → Mode × σ
  | (.plain, s), c => if c = escape then (.escaped, s) else (.plain, d.put s c)
  | (.escaped, s), c => if c = '[' then (.numbered 0, s) else (.plain, s)
  | (.numbered n, s), c =>
    if c.isDigit then (.numbered (10 * n + (c.toNat - '0'.toNat)), s)
    else (.plain, d.control s n c)

def play (s : σ) (text : String) : Mode × σ :=
  text.toList.foldl d.read (.plain, s)

@[simp] theorem play_empty (s : σ) : d.play s "" = (.plain, s) := rfl

theorem play_append {d : Device σ} {s t u : σ} {a b : String} (ha : d.play s a = (.plain, t))
    (hb : d.play t b = (.plain, u)) : d.play s (a ++ b) = (.plain, u) := by
  unfold play at ha hb ⊢
  rw [String.toList_append, List.foldl_append, ha, hb]

theorem foldl_read_text (s : σ) (cs : List Char) (h : ∀ c ∈ cs, c ≠ escape) :
    cs.foldl d.read (.plain, s) = (.plain, cs.foldl d.put s) := by
  induction cs generalizing s with
  | nil => rfl
  | cons c cs ih =>
    have hc : c ≠ escape := h c (List.mem_cons_self ..)
    have hcs : ∀ x ∈ cs, x ≠ escape := fun x hx => h x (List.mem_cons_of_mem _ hx)
    rw [List.foldl_cons, List.foldl_cons, ← ih (d.put s c) hcs]
    simp only [read, hc, if_false]

theorem play_text (s : σ) (text : String) (h : EscapeFree text) :
    d.play s text = (.plain, text.toList.foldl d.put s) :=
  d.foldl_read_text s text.toList h

theorem foldl_read_digits (s : σ) (cs : List Char) (n : Nat) (h : ∀ c ∈ cs, c.isDigit) :
    cs.foldl d.read (.numbered n, s) = (.numbered (Nat.ofDigitChars 10 cs n), s) := by
  induction cs generalizing n with
  | nil => rfl
  | cons c cs ih =>
    have hc : c.isDigit := h c (List.mem_cons_self ..)
    have hcs : ∀ x ∈ cs, x.isDigit := fun x hx => h x (List.mem_cons_of_mem _ hx)
    rw [List.foldl_cons, Nat.ofDigitChars_cons, ← ih _ hcs]
    simp only [read, hc, if_true]

/- The digits that a sequence is written with read back as its number. -/
theorem play_sequence (s : σ) (n : Nat) (letter : Char) (h : letter.isDigit = false) :
    d.play s (sequence n letter) = (.plain, d.control s n letter) := by
  have hdigits : ∀ c ∈ Number.decimalText n, c.isDigit := by
    intro c hc
    exact Nat.isDigit_of_mem_toDigits (by omega) (by omega) hc
  have hvalue : Nat.ofDigitChars 10 (Number.decimalText n) 0 = n := Nat.ofDigitChars_ten_toDigits
  have hopen : ∀ cs : List Char, (escape :: '[' :: cs).foldl d.read (.plain, s) =
      cs.foldl d.read (.numbered 0, s) := by
    intro cs
    rfl
  unfold play sequence
  rw [String.toList_ofList, hopen, List.foldl_append, d.foldl_read_digits s _ 0 hdigits, hvalue]
  simp only [List.foldl_cons, List.foldl_nil, read, h, Bool.false_eq_true, if_false]

end Device

/-! ### Foregrounds -/

/-- The foreground after the color sequence with number `n`; `none` is the default. -/
def selected (pen : Option Color) (n : Nat) : Option Color :=
  if n = 0 then none
  else if 30 ≤ n ∧ n ≤ 37 then BaseColor.all[n - 30]?.map fun b => ⟨b, false⟩
  else if 90 ≤ n ∧ n ≤ 97 then BaseColor.all[n - 90]?.map fun b => ⟨b, true⟩
  else pen

theorem selected_colorCode (pen : Option Color) (c : Color) :
    selected pen (colorCode c) = some c := by
  obtain ⟨base, bright⟩ := c
  cases base <;> cases bright <;> rfl

/-- A character with the foreground in which it was put. -/
abbrev Cell := Char × Option Color

def cells (pen : Option Color) (text : String) : List Cell :=
  text.toList.map fun c => (c, pen)

/-! ### Paper -/

structure Paper where
  printed : List Cell := []
  pen : Option Color := none
  deriving Repr, DecidableEq

namespace Paper

def device : Device Paper where
  put p c := { p with printed := p.printed ++ [(c, p.pen)] }
  control p n letter := if letter = 'm' then { p with pen := selected p.pen n } else p

theorem foldl_put (p : Paper) (cs : List Char) :
    cs.foldl device.put p = { p with printed := p.printed ++ cs.map fun c => (c, p.pen) } := by
  induction cs generalizing p with
  | nil => simp
  | cons c cs ih =>
    rw [List.foldl_cons, ih]
    simp [device]

theorem play_text (p : Paper) (text : String) (h : EscapeFree text) :
    device.play p text = (.plain, { p with printed := p.printed ++ cells p.pen text }) := by
  rw [Device.play_text device p text h, foldl_put]
  rfl

theorem play_foreground (p : Paper) (c : Color) :
    device.play p (foreground c) = (.plain, { p with pen := some c }) := by
  unfold foreground
  rw [Device.play_sequence device p _ 'm' (by decide)]
  simp only [device, if_true, selected_colorCode]

theorem play_reset (p : Paper) : device.play p reset = (.plain, { p with pen := none }) := by
  unfold reset
  rw [Device.play_sequence device p 0 'm' (by decide)]
  rfl

end Paper

end MarkupLog.Terminal
