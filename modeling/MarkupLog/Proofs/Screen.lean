import MarkupLog.Proofs.Terminal

/-!
# Screens

A screen is a device with rows without end above and below the first one, and columns without end
to the right. It starts blank. Characters are put at the cursor; control sequences move the cursor
up and down, erase in the row of the cursor and select colors.
-/

namespace MarkupLog.Terminal

/-- The characters of Unicode's class of controls. -/
def isControl (c : Char) : Bool :=
  c.toNat < 32 || (127 ≤ c.toNat && c.toNat < 160)

def Printable (text : String) : Prop :=
  ∀ c ∈ text.toList, isControl c = false

instance (text : String) : Decidable (Printable text) :=
  decidable_of_iff (text.toList.all fun c => !isControl c) (by simp [Printable])

theorem Printable.escapeFree {text : String} (h : Printable text) : EscapeFree text := by
  rintro c hc rfl
  exact absurd (h escape hc) (by decide)

theorem printable_append (a b : String) : Printable (a ++ b) ↔ Printable a ∧ Printable b := by
  simp only [Printable, String.toList_append, List.forall_mem_append]

theorem printable_spaces (n : Nat) : Printable (String.ofList (List.replicate n ' ')) := by
  intro c hc
  rw [String.toList_ofList] at hc
  rw [List.eq_of_mem_replicate hc]
  decide

structure Screen where
  cell : Int → Nat → Option Cell := fun _ _ => none
  row : Int := 0
  col : Nat := 0
  pen : Option Color := none

namespace Screen

/-! ### What a screen does -/

/-- A line feed goes to the first column of the next row; other controls show nothing. -/
def put (s : Screen) (c : Char) : Screen :=
  if c = '\n' then { s with row := s.row + 1, col := 0 }
  else if isControl c then s
  else
    { s with
      cell := fun r k => if r = s.row ∧ k = s.col then some (c, s.pen) else s.cell r k
      col := s.col + 1 }

/-- Erasing with number 0 covers the cursor and what is right of it, with 1 the cursor and what is
left of it, with 2 the whole row. -/
def erased (n col k : Nat) : Bool :=
  match n with
  | 0 => col ≤ k
  | 1 => k ≤ col
  | 2 => true
  | _ => false

def erase (s : Screen) (n : Nat) : Screen :=
  { s with cell := fun r k => if r = s.row ∧ erased n s.col k then none else s.cell r k }

/-- Moving by zero rows means moving by one. -/
def control (s : Screen) (n : Nat) : Char → Screen
  | 'm' => { s with pen := selected s.pen n }
  | 'A' => { s with row := s.row - max n 1 }
  | 'B' => { s with row := s.row + max n 1 }
  | 'K' => s.erase n
  | _ => s

def device : Device Screen := ⟨put, control⟩

/-! ### Writing a row -/

/-- The screen with the characters `cs` from the cursor on. -/
def write (s : Screen) (cs : List Cell) : Screen :=
  { s with
    cell := fun r k =>
      if r = s.row ∧ s.col ≤ k ∧ k < s.col + cs.length then cs[k - s.col]? else s.cell r k
    col := s.col + cs.length }

theorem write_nil (s : Screen) : s.write [] = s := by
  have hcell : (s.write []).cell = s.cell := by
    funext r k
    have hempty : ¬(r = s.row ∧ s.col ≤ k ∧ k < s.col + ([] : List Cell).length) := by
      simp only [List.length_nil]
      omega
    exact if_neg hempty
  show { s with cell := (s.write []).cell, col := s.col } = s
  rw [hcell]

theorem write_append (s : Screen) (a b : List Cell) : (s.write a).write b = s.write (a ++ b) := by
  have hcell : ((s.write a).write b).cell = (s.write (a ++ b)).cell := by
    funext r k
    simp only [write, List.length_append]
    by_cases hr : r = s.row
    · by_cases ha : k < s.col + a.length
      · have hb : ¬(s.col + a.length ≤ k) := by omega
        have hab : k < s.col + (a.length + b.length) := by omega
        by_cases hk : s.col ≤ k
        · have hleft : k - s.col < a.length := by omega
          simp only [hr, ha, hb, hab, hk, true_and, false_and, and_true, if_true, if_false,
            List.getElem?_append_left hleft]
        · simp only [hb, hk, false_and, and_false, if_false]
      · have hk : s.col ≤ k := by omega
        have hright : a.length ≤ k - s.col := by omega
        have hshift : k - s.col - a.length = k - (s.col + a.length) := by omega
        have hstart : s.col + a.length ≤ k := by omega
        simp only [hr, ha, hk, hstart, true_and, and_false, if_false, Nat.add_assoc,
          List.getElem?_append_right hright, hshift]
    · simp only [hr, false_and, if_false]
  have hcol : s.col + a.length + b.length = s.col + (a ++ b).length := by
    rw [List.length_append, Nat.add_assoc]
  show { s with cell := ((s.write a).write b).cell, col := s.col + a.length + b.length } =
    { s with cell := (s.write (a ++ b)).cell, col := s.col + (a ++ b).length }
  rw [hcell, hcol]

theorem put_printable (s : Screen) (c : Char) (h : isControl c = false) :
    s.put c = s.write [(c, s.pen)] := by
  have hnewline : c ≠ '\n' := by
    rintro rfl
    exact absurd h (by decide)
  have hcell : (s.write [(c, s.pen)]).cell =
      fun r k => if r = s.row ∧ k = s.col then some (c, s.pen) else s.cell r k := by
    funext r k
    simp only [write, List.length_singleton]
    by_cases hk : k = s.col
    · subst hk
      simp
    · have hout : ¬(s.col ≤ k ∧ k < s.col + 1) := by omega
      simp only [hk, hout, and_false, if_false]
  unfold put
  rw [if_neg hnewline, h]
  simp only [Bool.false_eq_true, if_false, ← hcell]
  rfl

theorem foldl_put (s : Screen) (cs : List Char) (h : ∀ c ∈ cs, isControl c = false) :
    cs.foldl put s = s.write (cs.map fun c => (c, s.pen)) := by
  induction cs generalizing s with
  | nil => rw [List.map_nil, write_nil, List.foldl_nil]
  | cons c cs ih =>
    have hc : isControl c = false := h c (List.mem_cons_self ..)
    have hcs : ∀ x ∈ cs, isControl x = false := fun x hx => h x (List.mem_cons_of_mem _ hx)
    rw [List.foldl_cons, put_printable s c hc, ih _ hcs]
    exact write_append s [(c, s.pen)] (cs.map fun x => (x, s.pen))

theorem play_text (s : Screen) (text : String) (h : Printable text) :
    device.play s text = (.plain, s.write (cells s.pen text)) := by
  rw [Device.play_text device s text h.escapeFree]
  exact congrArg (Prod.mk Mode.plain) (foldl_put s text.toList h)

theorem play_newline (s : Screen) :
    device.play s "\n" = (.plain, { s with row := s.row + 1, col := 0 }) := by
  rfl

theorem play_foreground (s : Screen) (c : Color) :
    device.play s (foreground c) = (.plain, { s with pen := some c }) := by
  unfold foreground
  rw [Device.play_sequence device s _ 'm' (by decide)]
  simp only [device, control, selected_colorCode]

theorem play_reset (s : Screen) : device.play s reset = (.plain, { s with pen := none }) := by
  unfold reset
  rw [Device.play_sequence device s 0 'm' (by decide)]
  rfl

theorem play_eraseLine (s : Screen) : device.play s eraseLine = (.plain, s.erase 2) := by
  unfold eraseLine
  rw [Device.play_sequence device s 2 'K' (by decide)]
  rfl

theorem play_cursorUp (s : Screen) (n : Int) (h : 0 < n) :
    device.play s (cursorUp n) = (.plain, { s with row := s.row - n }) := by
  have hn : ((max n.toNat 1 : Nat) : Int) = n := by omega
  unfold cursorUp
  rw [if_pos h, Device.play_sequence device s _ 'A' (by decide)]
  simp only [device, control, hn]

/- Going down by no rows at all is written as no text at all. -/
theorem play_cursorDown (s : Screen) (n : Int) (h : 0 ≤ n) :
    device.play s (cursorDown n) = (.plain, { s with row := s.row + n }) := by
  unfold cursorDown
  by_cases hn : 0 < n
  · have hmax : ((max n.toNat 1 : Nat) : Int) = n := by omega
    rw [if_pos hn, Device.play_sequence device s _ 'B' (by decide)]
    simp only [device, control, hmax]
  · have hzero : s.row + n = s.row := by omega
    rw [if_neg hn, Device.play_empty, hzero]

/-! ### Rows from the first one on -/

/-- The cell at a place when the rows stand below each other from row zero on. -/
def cellOf (rows : List (List Cell)) : Int → Nat → Option Cell
  | .ofNat r, k => (rows[r]?.getD [])[k]?
  | .negSucc _, _ => none

/-- The screen holds exactly these rows, and the cursor starts the row below them. -/
structure Shows (s : Screen) (rows : List (List Cell)) : Prop where
  cell : ∀ r k, s.cell r k = cellOf rows r k
  row : s.row = rows.length
  col : s.col = 0

theorem shows_blank : Shows {} [] := by
  refine ⟨?_, rfl, rfl⟩
  intro r k
  cases r <;> rfl

theorem cellOf_append (rows : List (List Cell)) (cs : List Cell) (r : Int) (k : Nat) :
    cellOf (rows ++ [cs]) r k = if r = rows.length then cs[k]? else cellOf rows r k := by
  cases r with
  | negSucc r =>
    have hr : ¬(Int.negSucc r = rows.length) := by omega
    rw [if_neg hr]
    rfl
  | ofNat r =>
    simp only [cellOf, Int.ofNat_eq_natCast, Int.natCast_inj]
    by_cases hr : r = rows.length
    · rw [if_pos hr, hr, List.getElem?_concat_length, Option.getD_some]
    · rw [if_neg hr]
      by_cases hlt : r < rows.length
      · rw [List.getElem?_append_left hlt]
      · have h1 : (rows ++ [cs])[r]? = none := by
          rw [List.getElem?_eq_none_iff, List.length_append, List.length_singleton]
          omega
        have h2 : rows[r]? = none := List.getElem?_eq_none (by omega)
        rw [h1, h2]

theorem cellOf_set (rows : List (List Cell)) (j : Nat) (hj : j < rows.length) (cs : List Cell)
    (r : Int) (k : Nat) :
    cellOf (rows.set j cs) r k = if r = j then cs[k]? else cellOf rows r k := by
  cases r with
  | negSucc r =>
    have hr : ¬(Int.negSucc r = j) := by omega
    rw [if_neg hr]
    rfl
  | ofNat r =>
    simp only [cellOf, Int.ofNat_eq_natCast, Int.natCast_inj]
    by_cases hr : r = j
    · rw [if_pos hr, hr, List.getElem?_set_self hj, Option.getD_some]
    · rw [if_neg hr, List.getElem?_set_ne (Ne.symm hr)]

/-- The text fills one row with the characters `cs` and ends it. -/
def Fills (text : String) (cs : List Cell) : Prop :=
  ∀ s : Screen, ∃ pen, device.play s text =
    (.plain, { s.write cs with row := s.row + 1, col := 0, pen })

theorem Shows.newRow {s : Screen} {rows : List (List Cell)} {text : String} {cs : List Cell}
    (h : s.Shows rows) (ht : Fills text cs) :
    ∃ s', device.play s text = (.plain, s') ∧ s'.Shows (rows ++ [cs]) := by
  obtain ⟨pen, hplay⟩ := ht s
  refine ⟨_, hplay, ⟨?_, ?_, rfl⟩⟩
  · intro r k
    rw [cellOf_append, ← h.cell r k, ← h.row]
    simp only [write, h.col, Nat.zero_le, Nat.zero_add, Nat.sub_zero, true_and]
    by_cases hr : r = s.row
    · by_cases hk : k < cs.length
      · simp only [hr, hk, and_self, if_true]
      · have hblank : s.cell s.row k = none := by
          rw [h.cell, h.row]
          show (rows[rows.length]?.getD [])[k]? = none
          rw [List.getElem?_eq_none (Nat.le_refl _), Option.getD_none, List.getElem?_nil]
        simp only [hr, hk, and_false, if_false, if_true, hblank]
        rw [List.getElem?_eq_none (by omega)]
    · simp only [hr, false_and, if_false]
  · simp only [h.row, List.length_append, List.length_singleton, Int.natCast_add, Int.natCast_one]

/- The way down is one row shorter than the way up, since the row ends with a line feed. -/
theorem Shows.rewriteRow {s : Screen} {rows : List (List Cell)} {text : String} {cs : List Cell}
    (h : s.Shows rows) (ht : Fills text cs) (j : Nat) (hj : j < rows.length) :
    ∃ s', device.play s (cursorUp (rows.length - j) ++ eraseLine ++ text ++
        cursorDown (rows.length - j - 1)) = (.plain, s') ∧ s'.Shows (rows.set j cs) := by
  have hup := play_cursorUp s (rows.length - j) (by omega)
  have hrow : s.row - ((rows.length : Int) - j) = j := by
    rw [h.row]
    omega
  rw [hrow] at hup
  have herase := play_eraseLine { s with row := j }
  obtain ⟨pen, hfill⟩ := ht ({ s with row := j }.erase 2)
  have hdown := fun t : Screen => play_cursorDown t (rows.length - j - 1) (by omega)
  refine ⟨_, Device.play_append (Device.play_append (Device.play_append hup herase) hfill)
    (hdown _), ⟨?_, ?_, rfl⟩⟩
  · intro r k
    rw [cellOf_set rows j hj, ← h.cell r k]
    simp only [write, erase, erased, h.col, Nat.zero_le, Nat.zero_add, Nat.sub_zero, true_and,
      and_true]
    by_cases hr : r = j
    · by_cases hk : k < cs.length
      · simp only [hr, hk, and_self, if_true]
      · simp only [hr, hk, and_false, if_false, if_true]
        rw [List.getElem?_eq_none (by omega)]
    · simp only [hr, false_and, if_false]
  · simp only [erase, List.length_set]
    omega

end Screen

end MarkupLog.Terminal
