import MarkupLog.Proofs.Surplus

/-!
# How many arguments a template takes

Each star of a directive takes an argument, and its conversion takes one. So a filled template has
taken a number of arguments that its text alone decides: of the prefixes of a list of arguments at
most one fills it, and a search for that prefix may try them in any order.
-/

namespace MarkupLog.Template

variable {α β : Type} {m : Nat}

/-! ### Counting -/

def Measure.arity : Measure → Nat
  | .star => 1
  | .absent | .given _ => 0

def Directive.arity (d : Directive) : Nat :=
  d.width.arity + (d.precision.arity + 1)

/-- The number of arguments that the pieces of a template take. -/
def arity : List Piece → Nat
  | [] => 0
  | .literal _ :: rest => arity rest
  | .directive d :: rest => d.arity + arity rest

/-! ### Readers -/

/-- A reader of arguments that takes `n` of them. -/
def Takes (n : Nat) (take : List Value → Except Fault (α × List Value)) : Prop :=
  ∀ (args : List Value) (a : α) (rest : List Value),
    take args = .ok (a, rest) → args.length = n + rest.length

namespace Takes

theorem pure (a : α) : Takes 0 fun args => .ok (a, args) := by
  intro args b rest h
  cases h
  exact (Nat.zero_add _).symm

theorem fail (n : Nat) (f : Fault) :
    Takes n fun _ => (.error f : Except Fault (α × List Value)) := by
  intro args a rest h
  cases h

theorem bind (n : Nat) {R : List Value → Except Fault (α × List Value)}
    {S : α × List Value → Except Fault (β × List Value)} (hR : Takes m R)
    (hS : ∀ a, Takes n fun rest => S (a, rest)) : Takes (m + n) fun args => R args >>= S := by
  intro args b rest h
  dsimp only at h
  cases hfirst : R args with
  | error f =>
    rw [hfirst] at h
    cases h
  | ok p =>
    obtain ⟨a, left⟩ := p
    rw [hfirst] at h
    have htaken := hR args a left hfirst
    have hnext := hS a left b rest h
    omega

end Takes

theorem takes_takeArgument : Takes 1 takeArgument := by
  intro args v rest h
  cases args with
  | nil => cases h
  | cons w left =>
    cases h
    exact Nat.add_comm _ _

theorem takes_takeStar : Takes 1 takeStar := by
  refine takes_takeArgument.bind 0 ?_
  intro v
  dsimp only
  cases v.integer? with
  | none => exact Takes.fail 0 _
  | some i => exact Takes.pure i

theorem takes_takeWidth (flags : Flags) (width : Measure) :
    Takes width.arity (takeWidth flags width) := by
  cases width with
  | absent => exact Takes.pure (flags, 0)
  | given n => exact Takes.pure (flags, n)
  | star =>
    refine takes_takeStar.bind 0 ?_
    intro i
    by_cases hrange : i < -maxWidth - 1 ∨ maxWidth < i
    · simp only [hrange, if_true]
      exact Takes.fail 0 _
    · by_cases hnegative : i < 0
      · simp only [hrange, hnegative, if_true, if_false]
        exact Takes.pure _
      · simp only [hrange, hnegative, if_false]
        exact Takes.pure _

theorem takes_takePrecision (precision : Measure) :
    Takes precision.arity (takePrecision precision) := by
  cases precision with
  | absent => exact Takes.pure none
  | given n => exact Takes.pure (some n)
  | star =>
    refine takes_takeStar.bind 0 ?_
    intro i
    by_cases hrange : i < -maxPrecision - 1 ∨ maxPrecision < i
    · simp only [hrange, if_true]
      exact Takes.fail 0 _
    · simp only [hrange, if_false]
      exact Takes.pure _

theorem takes_fill (d : Directive) : Takes d.arity d.fill := by
  refine (takes_takeWidth d.flags d.width).bind (d.precision.arity + 1) ?_
  rintro ⟨flags, width⟩
  refine (takes_takePrecision d.precision).bind 1 ?_
  intro precision
  cases d.ending with
  | fault f => exact Takes.fail 1 f
  | letter c index =>
    refine takes_takeArgument.bind 0 ?_
    intro v
    dsimp only
    cases convert flags precision c index v with
    | error f => exact Takes.fail 0 f
    | ok field => exact Takes.pure (field.padded flags width)

/-! ### Templates -/

theorem length_of_fillPieces (pieces : List Piece) (args : List Value) (text : List Char)
    (h : fillPieces pieces args = .ok text) : args.length = arity pieces := by
  induction pieces generalizing args text with
  | nil =>
    cases args with
    | nil => rfl
    | cons v args => cases h
  | cons piece pieces ih =>
    cases piece with
    | literal c =>
      rw [fillPieces, map_eq_ok] at h
      obtain ⟨tail, htail, -⟩ := h
      exact ih args tail htail
    | directive d =>
      cases hd : d.fill args with
      | error f =>
        rw [fillPieces_of_error d pieces args f hd] at h
        cases h
      | ok p =>
        obtain ⟨head, left⟩ := p
        rw [fillPieces_of_ok d pieces args left head hd, map_eq_ok] at h
        obtain ⟨tail, htail, -⟩ := h
        have htaken := takes_fill d args head left hd
        have hrest := ih left tail htail
        rw [arity, htaken, hrest]

theorem length_of_fill (template : String) (args : List Value) (text : String)
    (h : fill template args = .ok text) : args.length = arity (read template) := by
  unfold fill at h
  rw [map_eq_ok] at h
  obtain ⟨chars, hchars, -⟩ := h
  exact length_of_fillPieces (read template) args chars hchars

theorem fillPieces_surplus (pieces : List Piece) (args extra : List Value) (text : List Char)
    (h : fillPieces pieces args = .ok text) (hextra : extra ≠ []) :
    fillPieces pieces (args ++ extra) = .error .surplusArguments := by
  induction pieces generalizing args text with
  | nil =>
    cases args with
    | nil =>
      obtain ⟨v, rest, rfl⟩ := List.exists_cons_of_ne_nil hextra
      rfl
    | cons v args => cases h
  | cons piece pieces ih =>
    cases piece with
    | literal c =>
      rw [fillPieces, map_eq_ok] at h
      obtain ⟨tail, htail, -⟩ := h
      rw [fillPieces, map_eq_error]
      exact ih args tail htail
    | directive d =>
      cases hd : d.fill args with
      | error f =>
        rw [fillPieces_of_error d pieces args f hd] at h
        cases h
      | ok p =>
        obtain ⟨head, left⟩ := p
        rw [fillPieces_of_ok d pieces args left head hd, map_eq_ok] at h
        obtain ⟨tail, htail, -⟩ := h
        have hfill := (frugal_fill d).ok_append args extra head left hd
        rw [fillPieces_of_ok d pieces _ _ head hfill, map_eq_error]
        exact ih left tail htail

theorem fill_surplus (template : String) (args extra : List Value) (text : String)
    (h : fill template args = .ok text) (hextra : extra ≠ []) :
    fill template (args ++ extra) = .error .surplusArguments := by
  unfold fill at h ⊢
  rw [map_eq_ok] at h
  obtain ⟨chars, hchars, -⟩ := h
  rw [map_eq_error]
  exact fillPieces_surplus (read template) args extra chars hchars hextra

/-! ### Prefixes of the arguments -/

section Prefixes

variable (template : String) (args : List Value)

theorem length_of_fill_take (n : Nat) (text : String) (hn : n ≤ args.length)
    (h : fill template (args.take n) = .ok text) : n = arity (read template) := by
  have hlength := length_of_fill template (args.take n) text h
  rw [List.length_take, Nat.min_eq_left hn] at hlength
  exact hlength

theorem toOption_eq_some (r : Except Fault α) (a : α) : r.toOption = some a ↔ r = .ok a := by
  cases r with
  | error f => exact ⟨nofun, nofun⟩
  | ok b => simp [Except.toOption]

theorem firstText_eq_some_iff (lengths : List Nat) (text : String)
    (hlengths : ∀ n ∈ lengths, n ≤ args.length) :
    firstText template args lengths = some text ↔
      ∃ n ∈ lengths, fill template (args.take n) = .ok text := by
  constructor
  · intro h
    obtain ⟨n, hn, htext⟩ := List.exists_of_findSome?_eq_some h
    exact ⟨n, hn, (toOption_eq_some _ text).mp htext⟩
  · rintro ⟨n, hn, htext⟩
    have hfound := (toOption_eq_some _ text).mpr htext
    cases hfirst : firstText template args lengths with
    | none =>
      have hnone := List.findSome?_eq_none_iff.mp hfirst n hn
      rw [hnone] at hfound
      cases hfound
    | some other =>
      -- The first length that gives a text is the number that the template takes, and so is `n`.
      obtain ⟨k, hk, hother⟩ := List.exists_of_findSome?_eq_some hfirst
      have hother := (toOption_eq_some _ other).mp hother
      have hkn : k = n := by
        rw [length_of_fill_take template args k other (hlengths k hk) hother,
          length_of_fill_take template args n text (hlengths n hn) htext]
      rw [hkn, htext] at hother
      cases hother
      rfl

theorem firstText_perm (order lengths : List Nat) (h : order.Perm lengths)
    (hlengths : ∀ n ∈ lengths, n ≤ args.length) :
    firstText template args order = firstText template args lengths := by
  have horder : ∀ n ∈ order, n ≤ args.length := fun n hn => hlengths n (h.mem_iff.mp hn)
  apply Option.ext
  intro text
  rw [firstText_eq_some_iff template args order text horder,
    firstText_eq_some_iff template args lengths text hlengths]
  simp only [h.mem_iff]

theorem le_of_mem_range_reverse (n : Nat) (hn : n ∈ (List.range args.length).reverse) :
    n ≤ args.length :=
  Nat.le_of_lt (List.mem_range.mp (List.mem_reverse.mp hn))

end Prefixes

theorem formatMessage_surplus (template : String) (args extra : List Value) (text : String)
    (hargs : args ++ extra ≠ []) (h : fill template args = .ok text) :
    formatMessage template (args ++ extra) = ⟨.ok text, []⟩ := by
  by_cases hextra : extra = []
  · subst hextra
    rw [List.append_nil] at hargs ⊢
    exact formatMessage_of_ok template args text hargs h
  · have hall := fill_surplus template args extra text h hextra
    have hlength : args.length < (args ++ extra).length := by
      rw [List.length_append]
      exact Nat.lt_add_of_pos_right (List.length_pos_iff.mpr hextra)
    have hmem : args.length ∈ (List.range (args ++ extra).length).reverse := by
      rw [List.mem_reverse, List.mem_range]
      exact hlength
    have hprefix : fill template ((args ++ extra).take args.length) = .ok text := by
      rw [List.take_left]
      exact h
    have hfirst := (firstText_eq_some_iff template (args ++ extra) _ text
      (le_of_mem_range_reverse (args ++ extra))).mpr ⟨args.length, hmem, hprefix⟩
    exact formatMessage_of_firstText template (args ++ extra) .surplusArguments hargs hall rfl
      text hfirst

/-- Surplus arguments never change a message. What fills the template is the message also with more
arguments behind it, and nothing is noted; no two prefixes of the arguments fill the template; and
the search for one that does finds the same in any order. -/
theorem surplus_arguments_ignored (template : String) (args : List Value) :
    (∀ extra text, args ++ extra ≠ [] → fill template args = .ok text →
      formatMessage template (args ++ extra) = ⟨.ok text, []⟩) ∧
    (∀ m n text other, m ≤ args.length → n ≤ args.length →
      fill template (args.take m) = .ok text → fill template (args.take n) = .ok other → m = n) ∧
    ∀ first order, fill template args = .error first → first.recoverable →
      order.Perm (List.range args.length) →
        fillShorter template args args.length = .ok (firstText template args order) := by
  refine ⟨?_, ?_, ?_⟩
  · intro extra text hargs h
    exact formatMessage_surplus template args extra text hargs h
  · intro m n text other hm hn hfirst hsecond
    rw [length_of_fill_take template args m text hm hfirst,
      length_of_fill_take template args n other hn hsecond]
  · intro first order h hfirst horder
    have hperm := horder.trans (List.reverse_perm (List.range args.length)).symm
    rw [fillShorter_eq_firstText template args first h hfirst,
      firstText_perm template args order _ hperm (le_of_mem_range_reverse args)]

/- A width from a star and a doubled percent sign; then a template that takes one of three
arguments, tried from the shortest prefix on. -/
theorem surplus_arguments_ignored_star :
    (fill "%*d%%" [.int 4, .int 7] = .ok "   7%" ∧
      formatMessage "%*d%%" ([.int 4, .int 7] ++ [.str "x", .none]) = ⟨.ok "   7%", []⟩) ∧
    (fill "%s" [.int 1, .int 2, .int 3] = .error .surplusArguments ∧
      fillShorter "%s" [.int 1, .int 2, .int 3] 3 =
        .ok (firstText "%s" [.int 1, .int 2, .int 3] [0, 1, 2])) := by
  have hfill : fill "%*d%%" [.int 4, .int 7] = .ok "   7%" := by decide +kernel
  have hsurplus : fill "%s" [.int 1, .int 2, .int 3] = .error .surplusArguments := by
    decide +kernel
  obtain ⟨hmessage, -, -⟩ := surplus_arguments_ignored "%*d%%" [.int 4, .int 7]
  obtain ⟨-, -, horder⟩ := surplus_arguments_ignored "%s" [.int 1, .int 2, .int 3]
  exact ⟨⟨hfill, hmessage [.str "x", .none] _ nofun hfill⟩,
    hsurplus, horder .surplusArguments [0, 1, 2] hsurplus rfl (.refl _)⟩

end MarkupLog.Template
