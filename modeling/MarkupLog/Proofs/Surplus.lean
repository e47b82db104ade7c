import MarkupLog.Proofs.LongIntegers
import MarkupLog.Template.Message

/-!
# Filling with surplus arguments

A directive takes its arguments from the front and never looks at what it leaves. So arguments
appended to a list change what it does only where it ran out of them.
-/

namespace MarkupLog.Template

variable {α β : Type}

/-- A reader of arguments that does not look past what it takes. -/
structure Frugal (take : List Value → Except Fault (α × List Value)) : Prop where
  ok : ∀ (args : List Value) (a : α) (rest : List Value), take args = .ok (a, rest) →
    ∃ taken, args = taken ++ rest ∧ ∀ more, take (taken ++ more) = .ok (a, more)
  error : ∀ (args extra : List Value) (f : Fault),
    take args = .error f → f ≠ .missingArgument → take (args ++ extra) = .error f

namespace Frugal

theorem ok_append {R : List Value → Except Fault (α × List Value)} (hR : Frugal R)
    (args extra : List Value) (a : α) (rest : List Value) (h : R args = .ok (a, rest)) :
    R (args ++ extra) = .ok (a, rest ++ extra) := by
  obtain ⟨taken, rfl, htaken⟩ := hR.ok args a rest h
  rw [List.append_assoc]
  exact htaken (rest ++ extra)

theorem nil {R : List Value → Except Fault (α × List Value)} (hR : Frugal R) (a : α)
    (rest : List Value) (h : R [] = .ok (a, rest)) : rest = [] := by
  obtain ⟨taken, hsplit, -⟩ := hR.ok [] a rest h
  exact (List.append_eq_nil_iff.mp hsplit.symm).2

theorem pure (a : α) : Frugal fun args => .ok (a, args) where
  ok args b rest h := by
    cases h
    exact ⟨[], rfl, fun more => rfl⟩
  error args extra f h := by
    cases h

theorem fail (f : Fault) : Frugal fun _ => (.error f : Except Fault (α × List Value)) where
  ok args a rest h := by
    cases h
  error args extra g h _ := h

theorem bind {R : List Value → Except Fault (α × List Value)}
    {S : α × List Value → Except Fault (β × List Value)} (hR : Frugal R)
    (hS : ∀ a, Frugal fun rest => S (a, rest)) : Frugal fun args => R args >>= S where
  ok args b rest h := by
    cases hfirst : R args with
    | error f =>
      rw [hfirst] at h
      cases h
    | ok p =>
      obtain ⟨a, left⟩ := p
      rw [hfirst] at h
      obtain ⟨taken, rfl, htaken⟩ := hR.ok args a left hfirst
      obtain ⟨next, rfl, hnext⟩ := (hS a).ok left b rest h
      refine ⟨taken ++ next, (List.append_assoc taken next rest).symm, fun more => ?_⟩
      rw [List.append_assoc, htaken]
      exact hnext more
  error args extra f h hne := by
    cases hfirst : R args with
    | error g =>
      rw [hfirst] at h
      cases h
      rw [hR.error args extra f hfirst hne]
      rfl
    | ok p =>
      obtain ⟨a, left⟩ := p
      rw [hfirst] at h
      rw [hR.ok_append args extra a left hfirst]
      exact (hS a).error left extra f h hne

end Frugal

/-! ### Directives -/

theorem frugal_takeArgument : Frugal takeArgument where
  ok args v rest h := by
    cases args with
    | nil => cases h
    | cons w left =>
      cases h
      exact ⟨[v], rfl, fun more => rfl⟩
  error args extra f h hne := by
    cases args with
    | nil =>
      cases h
      exact absurd rfl hne
    | cons w left => cases h

theorem frugal_takeStar : Frugal takeStar := by
  refine Frugal.bind frugal_takeArgument ?_
  intro v
  dsimp only
  cases v.integer? with
  | none => exact Frugal.fail _
  | some i => exact Frugal.pure i

theorem frugal_takeWidth (flags : Flags) (width : Measure) : Frugal (takeWidth flags width) := by
  cases width with
  | absent => exact Frugal.pure (flags, 0)
  | given n => exact Frugal.pure (flags, n)
  | star =>
    refine Frugal.bind frugal_takeStar ?_
    intro i
    by_cases hrange : i < -maxWidth - 1 ∨ maxWidth < i
    · simp only [hrange, if_true]
      exact Frugal.fail _
    · by_cases hnegative : i < 0
      · simp only [hrange, hnegative, if_true, if_false]
        exact Frugal.pure _
      · simp only [hrange, hnegative, if_false]
        exact Frugal.pure _

theorem frugal_takePrecision (precision : Measure) : Frugal (takePrecision precision) := by
  cases precision with
  | absent => exact Frugal.pure none
  | given n => exact Frugal.pure (some n)
  | star =>
    refine Frugal.bind frugal_takeStar ?_
    intro i
    by_cases hrange : i < -maxPrecision - 1 ∨ maxPrecision < i
    · simp only [hrange, if_true]
      exact Frugal.fail _
    · simp only [hrange, if_false]
      exact Frugal.pure _

theorem frugal_fill (d : Directive) : Frugal d.fill := by
  refine Frugal.bind (frugal_takeWidth d.flags d.width) ?_
  rintro ⟨flags, width⟩
  refine Frugal.bind (frugal_takePrecision d.precision) ?_
  intro precision
  cases d.ending with
  | fault f => exact Frugal.fail f
  | letter c index =>
    refine Frugal.bind frugal_takeArgument ?_
    intro v
    dsimp only
    cases convert flags precision c index v with
    | error f => exact Frugal.fail f
    | ok field => exact Frugal.pure (field.padded flags width)

/-! ### Templates -/

theorem map_eq_ok (g : α → β) (x : Except Fault α) (b : β) :
    x.map g = .ok b ↔ ∃ a, x = .ok a ∧ g a = b := by
  cases x with
  | error f => exact ⟨nofun, fun ⟨_, h, _⟩ => nomatch h⟩
  | ok a => simp [Except.map]

theorem map_eq_error (g : α → β) (x : Except Fault α) (f : Fault) :
    x.map g = .error f ↔ x = .error f := by
  cases x with
  | error f' => simp [Except.map]
  | ok a => exact ⟨nofun, nofun⟩

theorem fillPieces_of_ok (d : Directive) (pieces : List Piece) (args left : List Value)
    (text : List Char) (h : d.fill args = .ok (text, left)) :
    fillPieces (.directive d :: pieces) args = (fillPieces pieces left).map (text ++ ·) := by
  rw [fillPieces, h]
  rfl

theorem fillPieces_of_error (d : Directive) (pieces : List Piece) (args : List Value) (f : Fault)
    (h : d.fill args = .error f) : fillPieces (.directive d :: pieces) args = .error f := by
  rw [fillPieces, h]
  rfl

theorem fillPieces_error_append (pieces : List Piece) (args extra : List Value) (f : Fault)
    (h : fillPieces pieces args = .error f) (hne : f ≠ .missingArgument) :
    fillPieces pieces (args ++ extra) = .error f := by
  induction pieces generalizing args with
  | nil =>
    cases args with
    | nil => cases h
    | cons v args => exact h
  | cons piece pieces ih =>
    cases piece with
    | literal c =>
      rw [fillPieces, map_eq_error] at h ⊢
      exact ih args h
    | directive d =>
      cases hd : d.fill args with
      | error g =>
        rw [fillPieces_of_error d pieces args g hd] at h
        cases h
        exact fillPieces_of_error d pieces _ f ((frugal_fill d).error args extra f hd hne)
      | ok p =>
        obtain ⟨head, left⟩ := p
        rw [fillPieces_of_ok d pieces args left head hd, map_eq_error] at h
        have hfill := (frugal_fill d).ok_append args extra head left hd
        rw [fillPieces_of_ok d pieces _ _ head hfill, map_eq_error]
        exact ih left h

theorem fill_error_append (template : String) (args extra : List Value) (f : Fault)
    (h : fill template args = .error f) (hne : f ≠ .missingArgument) :
    fill template (args ++ extra) = .error f := by
  unfold fill at h ⊢
  rw [map_eq_error] at h ⊢
  exact fillPieces_error_append (read template) args extra f h hne

/-! ### Messages -/

/-- The text that the first of some lengths gives whose arguments fill the template. -/
def firstText (template : String) (args : List Value) (lengths : List Nat) : Option String :=
  lengths.findSome? fun n => (fill template (args.take n)).toOption

/- A fault that ends the attempt does so for all longer lists of arguments, so the search for a
shorter list starts only when none of them gives such a fault. -/
theorem recoverable_take (template : String) (args : List Value) (first f : Fault) (n : Nat)
    (h : fill template args = .error first) (hfirst : first.recoverable)
    (hn : fill template (args.take n) = .error f) : f.recoverable := by
  by_cases hmissing : f = .missingArgument
  · rw [hmissing]
    rfl
  · have hall := fill_error_append template (args.take n) (args.drop n) f hn hmissing
    rw [List.take_append_drop, h] at hall
    cases hall
    exact hfirst

theorem fillShorter_eq_firstText (template : String) (args : List Value) (first : Fault)
    (h : fill template args = .error first) (hfirst : first.recoverable) (n : Nat) :
    fillShorter template args n = .ok (firstText template args (List.range n).reverse) := by
  induction n with
  | zero => rfl
  | succ n ih =>
    rw [List.range_succ, List.reverse_concat, firstText, List.findSome?_cons, fillShorter]
    cases hn : fill template (args.take n) with
    | ok text => rfl
    | error f =>
      have hf := recoverable_take template args first f n h hfirst hn
      dsimp only
      rw [if_pos hf]
      exact ih

theorem formatMessage_of_ok (template : String) (args : List Value) (text : String)
    (hargs : args ≠ []) (h : fill template args = .ok text) :
    formatMessage template args = ⟨.ok text, []⟩ := by
  unfold formatMessage
  rw [if_neg (by simpa using hargs), h]
  rfl

section Messages

variable (template : String) (args : List Value)

theorem recoverable_iff (f : Fault) : f.recoverable ↔ f.kind ≠ .overflow := by
  simp [Fault.recoverable]

theorem formatMessage_of_overflow (f : Fault) (hargs : args ≠ []) (h : fill template args = .error f)
    (hf : f.kind = .overflow) : formatMessage template args = ⟨.error f, []⟩ := by
  have hends : f.recoverable = false := by simpa [Fault.recoverable] using hf
  unfold formatMessage
  rw [if_neg (by simpa using hargs), h]
  dsimp only
  rw [hends]
  rfl

theorem formatMessage_of_firstText (first : Fault) (hargs : args ≠ [])
    (h : fill template args = .error first) (hfirst : first.recoverable) (text : String)
    (htext : firstText template args (List.range args.length).reverse = some text) :
    formatMessage template args = ⟨.ok text, []⟩ := by
  have hshorter := fillShorter_eq_firstText template args first h hfirst args.length
  unfold formatMessage
  rw [if_neg (by simpa using hargs), h]
  dsimp only
  rw [if_neg (by simpa using hfirst), hshorter, htext]
  rfl

/-- All attempts to fill the template with a prefix of the arguments fail, and none of them meets a
number out of range. -/
def Exhausted : Prop :=
  ∀ n, ∃ f, fill template (args.take n) = .error f ∧ f.kind ≠ .overflow

/-- All attempts to fill the template fail, and an argument that is then to be appended is or holds an
integer that is too long for a text. -/
def Unwritable : Prop :=
  Exhausted template args ∧ ∃ v ∈ args, v.HoldsLong

variable {template args}

theorem Exhausted.exists_first (h : Exhausted template args) :
    ∃ first, fill template args = .error first ∧ first.recoverable := by
  obtain ⟨first, hfirst, hkind⟩ := h args.length
  rw [List.take_length] at hfirst
  exact ⟨first, hfirst, (recoverable_iff first).mpr hkind⟩

theorem Exhausted.recoverable {first : Fault} (hexhausted : Exhausted template args)
    (h : fill template args = .error first) : first.recoverable := by
  obtain ⟨other, hother, hrecoverable⟩ := hexhausted.exists_first
  cases h.symm.trans hother
  exact hrecoverable

theorem Exhausted.firstText_eq_none (h : Exhausted template args) (lengths : List Nat) :
    firstText template args lengths = none := by
  rw [firstText, List.findSome?_eq_none_iff]
  intro n _
  obtain ⟨f, hf, -⟩ := h n
  rw [hf]
  rfl

theorem exhausted_of_no_text {first : Fault} (h : fill template args = .error first)
    (hfirst : first.recoverable) (hnone : ∀ n text, fill template (args.take n) ≠ .ok text) :
    Exhausted template args := by
  intro n
  cases hn : fill template (args.take n) with
  | ok text => exact absurd hn (hnone n text)
  | error f =>
    exact ⟨f, rfl, (recoverable_iff f).mp (recoverable_take template args first f n h hfirst hn)⟩

theorem exhausted_of_firstText {first : Fault} (h : fill template args = .error first)
    (hfirst : first.recoverable)
    (hnone : firstText template args (List.range args.length).reverse = none) :
    Exhausted template args := by
  refine exhausted_of_no_text h hfirst fun n text hn => ?_
  by_cases hlength : n < args.length
  · have hmem : n ∈ (List.range args.length).reverse := by simpa using hlength
    have hnothing := List.findSome?_eq_none_iff.mp hnone n hmem
    rw [hn] at hnothing
    cases hnothing
  · rw [List.take_of_length_le (by omega), h] at hn
    cases hn

theorem formatMessage_of_exhausted {first : Fault} (hargs : args ≠ [])
    (h : fill template args = .error first) (hexhausted : Exhausted template args) :
    formatMessage template args =
      ⟨appended template args, [failureRecord template args first]⟩ := by
  have hfirst := hexhausted.recoverable h
  have hshorter := fillShorter_eq_firstText template args first h hfirst args.length
  rw [hexhausted.firstText_eq_none] at hshorter
  unfold formatMessage
  rw [if_neg (by simpa using hargs), h]
  dsimp only
  rw [if_neg (by simpa using hfirst), hshorter]
  rfl

theorem appended_error_iff (template : String) (args : List Value) (f : Fault) :
    appended template args = .error f ↔ f = .integerTooLong ∧ ∃ v ∈ args, v.HoldsLong := by
  rw [← Value.texts_eq_none_iff, appended]
  cases args.mapM Value.text? with
  | none => simp [eq_comm]
  | some texts => simp

/- The message is lost only if no retry succeeds and the arguments cannot be appended. -/
theorem formatMessage_error_iff_of_recoverable {first : Fault} (hargs : args ≠ [])
    (h : fill template args = .error first) (hfirst : first.recoverable) (f : Fault) :
    (formatMessage template args).value = .error f ↔
      f = .integerTooLong ∧ Unwritable template args := by
  unfold Unwritable
  cases htext : firstText template args (List.range args.length).reverse with
  | some text =>
    rw [formatMessage_of_firstText template args first hargs h hfirst text htext]
    refine iff_of_false nofun fun ⟨_, hexhausted, _⟩ => ?_
    rw [hexhausted.firstText_eq_none] at htext
    cases htext
  | none =>
    have hexhausted := exhausted_of_firstText h hfirst htext
    rw [formatMessage_of_exhausted hargs h hexhausted, and_iff_right hexhausted]
    exact appended_error_iff template args f

/- The message fails with the first attempt, or in appending the arguments after all attempts. -/
theorem formatMessage_error_iff (template : String) (args : List Value) (f : Fault) :
    (formatMessage template args).value = .error f ↔
      args ≠ [] ∧ (fill template args = .error f ∧ f.kind = .overflow ∨
        f = .integerTooLong ∧ Unwritable template args) := by
  by_cases hargs : args = []
  · subst hargs
    exact iff_of_false nofun fun h => h.1 rfl
  rw [ne_eq, and_iff_right hargs]
  cases h : fill template args with
  | ok text =>
    rw [formatMessage_of_ok template args text hargs h]
    refine iff_of_false nofun ?_
    rintro (⟨hfill, -⟩ | ⟨-, hexhausted, -⟩)
    · cases hfill
    · obtain ⟨first, hfirst, -⟩ := hexhausted.exists_first
      cases h.symm.trans hfirst
  | error first =>
    by_cases hkind : first.kind = .overflow
    · have hwritable : ¬Unwritable template args :=
        fun hall => (recoverable_iff first).mp (hall.1.recoverable h) hkind
      rw [formatMessage_of_overflow template args first hargs h hkind]
      simp only [hwritable, and_false, or_false]
      refine ⟨fun hvalue => ?_, fun hfill => hfill.1⟩
      cases hvalue
      exact ⟨rfl, hkind⟩
    · have hno : ¬((.error first : Except Fault String) = .error f ∧ f.kind = .overflow) := by
        rintro ⟨hf, hoverflow⟩
        cases hf
        exact hkind hoverflow
      rw [or_iff_right hno]
      exact formatMessage_error_iff_of_recoverable hargs h ((recoverable_iff first).mpr hkind) f

end Messages

end MarkupLog.Template
