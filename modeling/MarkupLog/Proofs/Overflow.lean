import MarkupLog.Proofs.LargeIntegers
import MarkupLog.Proofs.Surplus

/-!
# Numbers out of range

Of the faults of a template only those about a number out of range end the attempt to fill it. This
module says which arguments give one: `fill_overflows_iff`. A message has a text unless they do, or
unless an argument has none to append: `formatMessage_ok_iff`.
-/

namespace MarkupLog.Template

open Number (Binary64)

variable {α β : Type}

/-- A computation that ends with a number out of range. -/
def Overflows (r : Except Fault α) : Prop :=
  ∃ f, r = .error f ∧ f.kind = .overflow

@[simp] theorem overflows_ok (a : α) : Overflows (.ok a : Except Fault α) ↔ False :=
  ⟨fun ⟨_, h, _⟩ => (nomatch h), nofun⟩

@[simp] theorem overflows_error (f : Fault) :
    Overflows (.error f : Except Fault α) ↔ f.kind = .overflow :=
  ⟨fun ⟨_, h, hf⟩ => by cases h; exact hf, fun hf => ⟨f, rfl, hf⟩⟩

@[simp] theorem overflows_map (g : α → β) (r : Except Fault α) :
    Overflows (r.map g) ↔ Overflows r := by
  cases r with
  | error f => simp [Except.map]
  | ok a => simp [Except.map]

theorem overflows_bind (r : Except Fault α) (g : α → Except Fault β) :
    Overflows (r >>= g) ↔ Overflows r ∨ ∃ a, r = .ok a ∧ Overflows (g a) := by
  cases r with
  | error f => simp [bind, Except.bind]
  | ok a => simp [bind, Except.bind]

theorem overflows_guard (p : Prop) [Decidable p] (f : Fault) (r : Except Fault α)
    (hf : f.kind = .overflow) (hr : ¬Overflows r) :
    Overflows (if p then .error f else r) ↔ p := by
  by_cases hp : p
  · rw [if_pos hp, overflows_error]
    exact iff_of_true hf hp
  · rw [if_neg hp]
    exact iff_of_false hr hp

/-! ### Conversions -/

/-- What a conversion makes of its value. -/
inductive Family
  | decimal
  | based
  | float
  | character
  | text
  deriving Repr, DecidableEq

def family : Char → Family
  | 'd' | 'i' | 'u' => .decimal
  | 'x' | 'X' | 'o' => .based
  | 'e' | 'E' | 'f' | 'F' | 'g' | 'G' => .float
  | 'c' => .character
  | _ => .text

/-- A value that is out of range for a conversion. -/
inductive TooLarge (precision : Option Nat) : Family → Value → Prop
  | infinite (negative : Bool) : TooLarge precision .decimal (.float (.infinite negative))
  | truncated (negative : Bool) (m : Nat) (e : Int)
      (hplaces : maxIntegerPrecision < precision.getD 0) :
      TooLarge precision .decimal (.float (.finite negative m e))
  | decimal (v : Value) (i : Int) (hv : v.integer? = some i)
      (hplaces : maxIntegerPrecision < precision.getD 0) : TooLarge precision .decimal v
  | based (v : Value) (i : Int) (hv : v.integer? = some i)
      (hplaces : maxIntegerPrecision < precision.getD 0) : TooLarge precision .based v
  | magnitude (v : Value) (i : Int) (hv : v.integer? = some i)
      (hi : Binary64.integerLimit ≤ i.natAbs) : TooLarge precision .float v
  | codePoint (v : Value) (i : Int) (hv : v.integer? = some i)
      (hi : i < 0 ∨ 0x110000 ≤ i) : TooLarge precision .character v

theorem integerField_overflows_iff (flags : Flags) (lead : List Char) (upper : Bool) (base : Nat)
    (precision : Option Nat) (i : Int) :
    Overflows (integerField flags lead upper base precision i) ↔
      maxIntegerPrecision < precision.getD 0 := by
  unfold integerField
  refine overflows_guard _ .precisionRange _ rfl ?_
  split <;> simp [Fault.kind]

theorem toInteger_overflows_iff (c : Char) (v : Value) :
    Overflows (toInteger c v) ↔ ∃ negative, v = .float (.infinite negative) := by
  cases v with
  | float f => cases f <;> simp [toInteger, Value.integer?, Fault.kind]
  | _ => simp [toInteger, Value.integer?, Fault.kind]

theorem toFloat_overflows_iff (v : Value) :
    Overflows (toFloat v) ↔ ∃ i, v.integer? = some i ∧ Binary64.integerLimit ≤ i.natAbs := by
  unfold toFloat
  cases hv : v.integer? with
  | none => cases v <;> simp [Fault.kind]
  | some i =>
    simp only [Option.some.injEq, exists_eq_left', ← Binary64.ofInt_infinite_iff]
    cases Binary64.ofInt i <;> simp [Fault.kind]

theorem toCharacter_overflows_iff (v : Value) :
    Overflows (toCharacter v) ↔ ∃ i, v.integer? = some i ∧ (i < 0 ∨ 0x110000 ≤ i) := by
  unfold toCharacter
  cases hv : v.integer? with
  | none =>
    cases v with
    | str s =>
      dsimp only
      split <;> simp [Fault.kind]
    | _ => simp [Fault.kind]
  | some i =>
    by_cases hi : i < 0 ∨ 0x110000 ≤ i
    · simp [hi, Fault.kind]
    · simp [hi]

theorem toInteger_ok (c : Char) (v : Value) (i : Int) (h : toInteger c v = .ok i) :
    v.integer? = some i ∨ ∃ negative m e, v = .float (.finite negative m e) := by
  unfold toInteger at h
  split at h
  · rename_i j hj
    cases h
    exact Or.inl hj
  · split at h <;> cases h
    exact Or.inr ⟨_, _, _, rfl⟩

theorem decimal_overflows_iff (flags : Flags) (precision : Option Nat) (c : Char) (v : Value) :
    Overflows (toInteger c v >>= integerField flags [] false 10 precision) ↔
      TooLarge precision .decimal v := by
  rw [overflows_bind, toInteger_overflows_iff]
  simp only [integerField_overflows_iff]
  constructor
  · rintro (⟨negative, rfl⟩ | ⟨i, hi, hplaces⟩)
    · exact .infinite negative
    · rcases toInteger_ok c v i hi with hv | ⟨negative, m, e, rfl⟩
      · exact .decimal v i hv hplaces
      · exact .truncated negative m e hplaces
  · intro h
    cases h with
    | infinite negative => exact Or.inl ⟨negative, rfl⟩
    | truncated negative m e hplaces => exact Or.inr ⟨_, rfl, hplaces⟩
    | decimal _ i hv hplaces =>
      refine Or.inr ⟨i, ?_, hplaces⟩
      unfold toInteger
      rw [hv]

theorem based_overflows_iff (flags : Flags) (c : Char) (lead : List Char) (upper : Bool)
    (base : Nat) (precision : Option Nat) (v : Value) :
    Overflows (basedField flags c lead upper base precision v) ↔ TooLarge precision .based v := by
  unfold basedField
  constructor
  · intro h
    cases hv : v.integer? with
    | none => simp [hv, Fault.kind] at h
    | some i =>
      rw [hv] at h
      exact .based v i hv ((integerField_overflows_iff _ _ _ _ _ i).mp h)
  · intro h
    cases h with
    | based _ i hv hplaces =>
      rw [hv]
      exact (integerField_overflows_iff _ _ _ _ _ i).mpr hplaces

theorem float_overflows_iff (precision : Option Nat) (g : Binary64 → β) (v : Value) :
    Overflows ((toFloat v).map g) ↔ TooLarge precision .float v := by
  rw [overflows_map, toFloat_overflows_iff]
  constructor
  · rintro ⟨i, hi, hlimit⟩
    exact .magnitude v i hi hlimit
  · intro h
    cases h with
    | magnitude _ i hv hlimit => exact ⟨i, hv, hlimit⟩

theorem character_overflows_iff (precision : Option Nat) (g : Char → β) (v : Value) :
    Overflows ((toCharacter v).map g) ↔ TooLarge precision .character v := by
  rw [overflows_map, toCharacter_overflows_iff]
  constructor
  · rintro ⟨i, hi, hrange⟩
    exact .codePoint v i hi hrange
  · intro h
    cases h with
    | codePoint _ i hv hrange => exact ⟨i, hv, hrange⟩

theorem textField_overflows (precision : Option Nat) (text : Option String) :
    ¬Overflows (textField precision text) := by
  cases text <;> simp [textField, Fault.kind]

theorem not_tooLarge_text (precision : Option Nat) (v : Value) : ¬TooLarge precision .text v :=
  nofun

theorem convert_overflows_iff (flags : Flags) (precision : Option Nat) (c : Char) (index : Nat)
    (v : Value) :
    Overflows (convert flags precision c index v) ↔ TooLarge precision (family c) v := by
  unfold convert
  split
  case h_1 | h_2 | h_3 =>
    exact iff_of_false (textField_overflows precision _) (not_tooLarge_text precision v)
  case h_4 | h_5 | h_6 => exact decimal_overflows_iff flags precision _ v
  case h_7 | h_8 | h_9 => exact based_overflows_iff flags _ _ _ _ precision v
  case h_10 | h_11 | h_12 | h_13 | h_14 | h_15 => exact float_overflows_iff precision _ v
  case h_16 => exact character_overflows_iff precision _ v
  case h_17 =>
    have htext : family c = .text := by
      unfold family
      split <;> simp_all
    rw [htext]
    exact iff_of_false (by simp [Fault.kind]) (not_tooLarge_text precision v)

/-! ### Directives -/

/-- The arguments left to a directive hold a number that is out of range for it: its width, its
precision, or the value that it converts. -/
inductive Directive.OutOfRange (d : Directive) : List Value → Prop
  | width (v : Value) (i : Int) (rest : List Value) (hstar : d.width = .star)
      (hv : v.integer? = some i) (hi : i < -maxWidth - 1 ∨ maxWidth < i) : d.OutOfRange (v :: rest)
  | precision (args : List Value) (shape : Flags × Nat) (v : Value) (i : Int) (rest : List Value)
      (hwidth : takeWidth d.flags d.width args = .ok (shape, v :: rest))
      (hstar : d.precision = .star) (hv : v.integer? = some i) (hi : i < -maxPrecision - 1 ∨ maxPrecision < i) :
      d.OutOfRange args
  | value (args left rest : List Value) (shape : Flags × Nat) (places : Option Nat) (v : Value)
      (c : Char) (index : Nat) (hwidth : takeWidth d.flags d.width args = .ok (shape, left))
      (hplaces : takePrecision d.precision left = .ok (places, v :: rest))
      (hletter : d.ending = .letter c index) (hv : TooLarge places (family c) v) : d.OutOfRange args

theorem takeArgument_overflows (args : List Value) : ¬Overflows (takeArgument args) := by
  cases args with
  | nil => simp [takeArgument, Fault.kind]
  | cons v rest => simp [takeArgument]

theorem takeStar_overflows (args : List Value) : ¬Overflows (takeStar args) := by
  unfold takeStar
  rw [overflows_bind]
  rintro (h | ⟨⟨v, rest⟩, -, h⟩)
  · exact takeArgument_overflows args h
  · dsimp only at h
    cases hv : v.integer? with
    | none => simp [hv, Fault.kind] at h
    | some i => simp [hv] at h

theorem takeStar_ok_iff (args rest : List Value) (i : Int) :
    takeStar args = .ok (i, rest) ↔ ∃ v, args = v :: rest ∧ v.integer? = some i := by
  cases args with
  | nil => exact ⟨nofun, nofun⟩
  | cons w left =>
    simp only [takeStar, takeArgument, bind, Except.bind]
    cases hw : w.integer? with
    | none => simp [hw]
    | some j =>
      constructor
      · intro h
        cases h
        exact ⟨w, rfl, hw⟩
      · rintro ⟨v, heq, hv⟩
        cases heq
        rw [hw] at hv
        cases hv
        rfl

theorem takeStar_bind_overflows_iff (args : List Value)
    (g : Int × List Value → Except Fault α) :
    Overflows (takeStar args >>= g) ↔
      ∃ v i rest, args = v :: rest ∧ v.integer? = some i ∧ Overflows (g (i, rest)) := by
  rw [overflows_bind]
  constructor
  · rintro (h | ⟨⟨i, rest⟩, htake, h⟩)
    · exact absurd h (takeStar_overflows args)
    · obtain ⟨v, hargs, hv⟩ := (takeStar_ok_iff args rest i).mp htake
      exact ⟨v, i, rest, hargs, hv, h⟩
  · rintro ⟨v, i, rest, hargs, hv, h⟩
    exact Or.inr ⟨(i, rest), (takeStar_ok_iff args rest i).mpr ⟨v, hargs, hv⟩, h⟩

theorem takeWidth_overflows_iff (flags : Flags) (width : Measure) (args : List Value) :
    Overflows (takeWidth flags width args) ↔
      width = .star ∧ ∃ v i rest, args = v :: rest ∧ v.integer? = some i ∧
        (i < -maxWidth - 1 ∨ maxWidth < i) := by
  cases width with
  | absent => simp [takeWidth]
  | given n => simp [takeWidth]
  | star =>
    rw [takeWidth, takeStar_bind_overflows_iff, eq_self, true_and]
    refine exists_congr fun v => exists_congr fun i => exists_congr fun rest =>
      and_congr_right fun _ => and_congr_right fun _ => ?_
    refine overflows_guard _ .starWidthRange _ rfl ?_
    split <;> simp

theorem takePrecision_overflows_iff (precision : Measure) (args : List Value) :
    Overflows (takePrecision precision args) ↔
      precision = .star ∧ ∃ v i rest, args = v :: rest ∧ v.integer? = some i ∧
        (i < -maxPrecision - 1 ∨ maxPrecision < i) := by
  cases precision with
  | absent => simp [takePrecision]
  | given n => simp [takePrecision]
  | star =>
    rw [takePrecision, takeStar_bind_overflows_iff, eq_self, true_and]
    refine exists_congr fun v => exists_congr fun i => exists_congr fun rest =>
      and_congr_right fun _ => and_congr_right fun _ => ?_
    exact overflows_guard _ .starPrecisionRange _ rfl (by simp)

theorem convertNext_overflows_iff (flags : Flags) (width : Nat) (places : Option Nat) (c : Char)
    (index : Nat) (args : List Value) :
    Overflows (do
      let (v, rest) ← takeArgument args
      let field ← convert flags places c index v
      return (field.padded flags width, rest)) ↔
      ∃ v rest, args = v :: rest ∧ TooLarge places (family c) v := by
  cases args with
  | nil => exact ⟨fun h => absurd ((overflows_error _).mp h) (by decide), fun ⟨_, _, h, _⟩ => nomatch h⟩
  | cons v rest =>
    show Overflows (convert flags places c index v >>= _) ↔ _
    rw [overflows_bind, convert_overflows_iff]
    constructor
    · rintro (h | ⟨field, -, h⟩)
      · exact ⟨v, rest, rfl, h⟩
      · exact absurd h (by simp [pure, Except.pure])
    · rintro ⟨w, left, heq, h⟩
      cases heq
      exact Or.inl h

/-- The form of a directive is not broken by a number out of range. -/
def Directive.Sized (d : Directive) : Prop :=
  ∀ f, d.ending = .fault f → f.kind ≠ .overflow

theorem Directive.fill_overflows_iff (d : Directive) (hd : d.Sized) (args : List Value) :
    Overflows (d.fill args) ↔ d.OutOfRange args := by
  unfold Directive.fill
  rw [overflows_bind]
  constructor
  · rintro (h | ⟨⟨⟨flags, width⟩, left⟩, hwidth, h⟩)
    · obtain ⟨hstar, v, i, rest, rfl, hv, hi⟩ := (takeWidth_overflows_iff _ _ _).mp h
      exact .width v i rest hstar hv hi
    dsimp only at h
    rw [overflows_bind] at h
    rcases h with h | ⟨⟨places, final⟩, hplaces, h⟩
    · obtain ⟨hstar, v, i, rest, rfl, hv, hi⟩ := (takePrecision_overflows_iff _ _).mp h
      exact .precision args _ v i rest hwidth hstar hv hi
    dsimp only at h
    cases hending : d.ending with
    | fault f =>
      rw [hending] at h
      exact absurd ((overflows_error f).mp h) (hd f hending)
    | letter c index =>
      rw [hending] at h
      obtain ⟨v, rest, rfl, hv⟩ := (convertNext_overflows_iff _ _ _ c index final).mp h
      exact .value args left rest _ places v c index hwidth hplaces hending hv
  · intro h
    cases h with
    | width v i rest hstar hv hi =>
      exact Or.inl ((takeWidth_overflows_iff _ _ _).mpr ⟨hstar, v, i, rest, rfl, hv, hi⟩)
    | precision _ shape v i rest hwidth hstar hv hi =>
      refine Or.inr ⟨_, hwidth, ?_⟩
      dsimp only
      rw [overflows_bind]
      exact Or.inl ((takePrecision_overflows_iff _ _).mpr ⟨hstar, v, i, rest, rfl, hv, hi⟩)
    | value _ left rest shape places v c index hwidth hplaces hletter hv =>
      refine Or.inr ⟨_, hwidth, ?_⟩
      dsimp only
      rw [overflows_bind]
      refine Or.inr ⟨_, hplaces, ?_⟩
      dsimp only
      rw [hletter]
      exact (convertNext_overflows_iff _ _ _ c index _).mpr ⟨v, rest, rfl, hv⟩

/-! ### Templates -/

theorem readLetter_sized (index : Nat → Nat) (flags : Flags) (width precision : Measure)
    (cs : List Char) :
    (readLetter index (fun ending => { flags, width, precision, ending }) cs).1.Sized := by
  intro f hf
  unfold readLetter at hf
  split at hf
  · cases hf
    decide
  · cases hf

theorem readDirective_sized (index : Nat → Nat) (cs : List Char) :
    (readDirective index cs).1.Sized := by
  unfold readDirective
  split
  · intro f hf
    cases hf
    decide
  · dsimp only
    split
    · intro f hf
      cases hf
      decide
    · split
      · intro f hf
        cases hf
        decide
      · exact readLetter_sized index _ _ _ _

theorem readPieces_sized (total : Nat) (cs : List Char) :
    ∀ d, Piece.directive d ∈ readPieces total cs → d.Sized := by
  induction cs using readPieces.induct total with
  | case1 =>
    intro d hd
    rw [readPieces] at hd
    cases hd
  | case2 rest ih =>
    intro d hd
    rw [readPieces] at hd
    rcases List.mem_cons.mp hd with heq | hd
    · cases heq
    · exact ih d hd
  | case3 rest hrest _ _ ih =>
    intro d hd
    rw [readPieces] at hd
    case x => exact hrest
    rcases List.mem_cons.mp hd with heq | hd
    · cases heq
      exact readDirective_sized _ rest
    · exact ih d hd
  | case4 c rest hpair hc ih =>
    intro d hd
    rw [readPieces] at hd
    case x => exact hpair
    case x_1 => exact hc
    rcases List.mem_cons.mp hd with heq | hd
    · cases heq
    · exact ih d hd

/-- The arguments hold a number that is out of range for the first directive that cannot be
filled. -/
def OutOfRange (pieces : List Piece) (args : List Value) : Prop :=
  ∃ before d after used rest text,
    pieces = before ++ .directive d :: after ∧ args = used ++ rest ∧
      fillPieces before used = .ok text ∧ d.OutOfRange rest

theorem outOfRange_literal (c : Char) (pieces : List Piece) (args : List Value) :
    OutOfRange (.literal c :: pieces) args ↔ OutOfRange pieces args := by
  constructor
  · rintro ⟨before, d, after, used, rest, text, hpieces, rfl, htext, h⟩
    cases before with
    | nil => cases hpieces
    | cons piece before =>
      cases hpieces
      rw [fillPieces, map_eq_ok] at htext
      obtain ⟨tail, htail, -⟩ := htext
      exact ⟨before, d, after, used, rest, tail, rfl, rfl, htail, h⟩
  · rintro ⟨before, d, after, used, rest, text, rfl, rfl, htext, h⟩
    refine ⟨.literal c :: before, d, after, used, rest, c :: text, rfl, rfl, ?_, h⟩
    rw [fillPieces, htext]
    rfl

theorem outOfRange_directive (d : Directive) (pieces : List Piece) (args : List Value) :
    OutOfRange (.directive d :: pieces) args ↔
      d.OutOfRange args ∨ ∃ p, d.fill args = .ok p ∧ OutOfRange pieces p.2 := by
  constructor
  · rintro ⟨before, d', after, used, rest, text, hpieces, rfl, htext, h⟩
    cases before with
    | nil =>
      cases hpieces
      cases used with
      | nil => exact Or.inl h
      | cons v used => cases htext
    | cons piece before =>
      cases hpieces
      cases hd : d.fill used with
      | error f =>
        rw [fillPieces_of_error d before used f hd] at htext
        cases htext
      | ok p =>
        obtain ⟨head, left⟩ := p
        rw [fillPieces_of_ok d before used left head hd, map_eq_ok] at htext
        obtain ⟨tail, htail, -⟩ := htext
        refine Or.inr ⟨_, (frugal_fill d).ok_append used rest head left hd, ?_⟩
        exact ⟨before, d', after, left, rest, tail, rfl, rfl, htail, h⟩
  · rintro (h | ⟨⟨head, left⟩, hd, before, d', after, used, rest, text, rfl, hleft, htext, h⟩)
    · exact ⟨[], d, pieces, [], args, [], rfl, rfl, rfl, h⟩
    · obtain ⟨taken, rfl, htaken⟩ := (frugal_fill d).ok args head left hd
      dsimp only at hleft
      subst hleft
      refine ⟨.directive d :: before, d', after, taken ++ used, rest, head ++ text, rfl,
        (List.append_assoc taken used rest).symm, ?_, h⟩
      rw [fillPieces_of_ok d before _ used head (htaken used), htext]
      rfl

theorem fillPieces_overflows_iff (pieces : List Piece) (args : List Value)
    (hsized : ∀ d, Piece.directive d ∈ pieces → d.Sized) :
    Overflows (fillPieces pieces args) ↔ OutOfRange pieces args := by
  induction pieces generalizing args with
  | nil =>
    have hnone : ¬OutOfRange [] args := by
      rintro ⟨before, d, after, used, rest, text, hpieces, -⟩
      exact absurd hpieces (by simp)
    cases args with
    | nil => exact iff_of_false (by simp [fillPieces]) hnone
    | cons v args => exact iff_of_false (by simp [fillPieces, Fault.kind]) hnone
  | cons piece pieces ih =>
    have hrest : ∀ d, Piece.directive d ∈ pieces → d.Sized :=
      fun d hd => hsized d (List.mem_cons_of_mem _ hd)
    cases piece with
    | literal c => rw [fillPieces, overflows_map, ih args hrest, outOfRange_literal]
    | directive d =>
      rw [fillPieces, overflows_bind, outOfRange_directive,
        Directive.fill_overflows_iff d (hsized d List.mem_cons_self)]
      refine or_congr_right (exists_congr fun p => and_congr_right fun _ => ?_)
      rw [overflows_map, ih p.2 hrest]

theorem fill_overflows_iff (template : String) (args : List Value) :
    Overflows (fill template args) ↔ OutOfRange (read template) args := by
  unfold fill
  rw [overflows_map]
  exact fillPieces_overflows_iff _ _ (readPieces_sized _ _)

theorem Directive.outOfRange_nil (d : Directive) : ¬d.OutOfRange [] := by
  intro h
  cases h with
  | precision _ shape v i rest hwidth =>
    cases (frugal_takeWidth d.flags d.width).nil shape _ hwidth
  | value _ left rest shape places v c index hwidth hplaces =>
    cases (frugal_takeWidth d.flags d.width).nil shape left hwidth
    cases (frugal_takePrecision d.precision).nil places _ hplaces

theorem outOfRange_nil (pieces : List Piece) : ¬OutOfRange pieces [] := by
  rintro ⟨before, d, after, used, rest, text, -, hargs, -, h⟩
  cases (List.append_eq_nil_iff.mp hargs.symm).2
  exact d.outOfRange_nil h

/- Without arguments nothing is filled, but then no number could be out of range either. -/
theorem formatMessage_ok_iff (template : String) (args : List Value) :
    (∃ text, (formatMessage template args).value = .ok text) ↔
      ¬OutOfRange (read template) args ∧ ¬Unwritable template args := by
  rw [← fill_overflows_iff, ← not_or]
  cases hvalue : (formatMessage template args).value with
  | error f =>
    obtain ⟨-, hfails⟩ := (formatMessage_error_iff template args f).mp hvalue
    refine iff_of_false (fun ⟨_, h⟩ => nomatch h) (not_not_intro ?_)
    exact hfails.imp (fun ⟨hfill, hf⟩ => ⟨f, hfill, hf⟩) And.right
  | ok text =>
    refine iff_of_true ⟨text, rfl⟩ ?_
    have hnone (f : Fault) : (formatMessage template args).value ≠ .error f := by
      rw [hvalue]
      exact nofun
    rintro (⟨f, hfill, hf⟩ | hunwritable)
    · have hargs : args ≠ [] := by
        rintro rfl
        exact outOfRange_nil _ ((fill_overflows_iff template []).mp ⟨f, hfill, hf⟩)
      exact hnone f ((formatMessage_error_iff template args f).mpr ⟨hargs, .inl ⟨hfill, hf⟩⟩)
    · obtain ⟨v, hv, -⟩ := hunwritable.2
      exact hnone _ ((formatMessage_error_iff template args _).mpr
        ⟨List.ne_nil_of_mem hv, .inr ⟨rfl, hunwritable⟩⟩)

end MarkupLog.Template
