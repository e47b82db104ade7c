import MarkupLog.Proofs.Removal
import MarkupLog.Proofs.Segments

/-!
# Lines without idle color sequences

A line in color could as well be written character by character, with a color sequence in front of
each character that is not shown in the color in force. So segments that show the same characters in
the same colors give the same line, however they are cut, and no color sequence of a line is idle.
-/

namespace MarkupLog

namespace Terminal

/-! ### Where control sequences stand -/

/-- A text that starts with a control sequence. -/
def OpensSequence (text : String) : Prop :=
  text.toList.head? = some escape

theorem not_opensSequence_empty : ¬OpensSequence "" := by
  intro h
  cases h

theorem opensSequence_sequence (n : Nat) (letter : Char) (rest : String) :
    OpensSequence (sequence n letter ++ rest) := by
  unfold OpensSequence sequence
  rw [String.toList_append, String.toList_ofList]
  rfl

theorem split_text {text rest before after : String} (htext : EscapeFree text)
    (h : text ++ rest = before ++ after) (hafter : OpensSequence after) :
    ∃ mid, before = text ++ mid ∧ rest = mid ++ after := by
  have hlist : text.toList ++ rest.toList = before.toList ++ after.toList := by
    rw [← String.toList_append, h, String.toList_append]
  rcases List.append_eq_append_iff.mp hlist with ⟨mid, hbefore, hrest⟩ | ⟨mid, hsame, hmid⟩
  · refine ⟨String.ofList mid, ?_, ?_⟩
    · rw [← String.toList_inj, hbefore, String.toList_append, String.toList_ofList]
    · rw [← String.toList_inj, hrest, String.toList_append, String.toList_ofList]
  · cases mid with
    | nil =>
      rw [List.append_nil] at hsame
      rw [List.nil_append] at hmid
      refine ⟨"", ?_, ?_⟩
      · rw [String.append_empty, ← String.toList_inj, hsame]
      · rw [String.empty_append, ← String.toList_inj, hmid]
    | cons x mid =>
      -- The escape character at the start of what follows would be one of the text.
      unfold OpensSequence at hafter
      rw [hmid] at hafter
      cases hafter
      have hmem : escape ∈ text.toList := by
        rw [hsame]
        exact List.mem_append_right _ (List.mem_cons_self ..)
      exact absurd rfl (htext escape hmem)

theorem singleton_append_inj {x y : Char} {a b : String}
    (h : String.singleton x ++ a = String.singleton y ++ b) : x = y ∧ a = b := by
  have hlist := congrArg String.toList h
  rw [String.toList_append, String.toList_append, String.toList_singleton,
    String.toList_singleton] at hlist
  obtain ⟨hxy, hab⟩ := List.cons.inj hlist
  exact ⟨hxy, String.toList_inj.mp hab⟩

/-- What stands in a control sequence behind its escape character. -/
def sequenceTail (n : Nat) (letter : Char) : String :=
  String.ofList ('[' :: (Number.decimalText n ++ [letter]))

theorem sequence_eq (n : Nat) (letter : Char) :
    sequence n letter = String.singleton escape ++ sequenceTail n letter :=
  String.ofList_cons

theorem escapeFree_sequenceTail (n : Nat) {letter : Char} (hletter : letter ≠ escape) :
    EscapeFree (sequenceTail n letter) := by
  intro c hc
  rw [sequenceTail, String.toList_ofList, List.mem_cons, List.mem_append,
    List.mem_singleton] at hc
  rcases hc with hbracket | hdigits | hlast
  · rw [hbracket]
    decide
  · have hdigit := isDigit_decimalText n c hdigits
    intro hescape
    rw [hescape] at hdigit
    exact absurd hdigit (by decide)
  · rw [hlast]
    exact hletter

theorem split_sequence {n : Nat} {letter : Char} (hletter : letter ≠ escape)
    {rest before after : String} (h : sequence n letter ++ rest = before ++ after)
    (hafter : OpensSequence after) :
    before = "" ∨ ∃ mid, before = sequence n letter ++ mid ∧ rest = mid ++ after := by
  cases hcs : before.toList with
  | nil => exact .inl (String.toList_eq_nil_iff.mp hcs)
  | cons x cs =>
    have hbefore : before = String.singleton x ++ String.ofList cs := by
      rw [← String.ofList_cons, ← hcs, String.ofList_toList]
    rw [sequence_eq, hbefore, String.append_assoc, String.append_assoc] at h
    obtain ⟨hx, htail⟩ := singleton_append_inj h
    obtain ⟨mid, hmid, hrest⟩ := split_text (escapeFree_sequenceTail n hletter) htail hafter
    right
    refine ⟨mid, ?_, hrest⟩
    rw [hbefore, hmid, sequence_eq, ← hx, String.append_assoc]

/-! ### Telling color sequences apart -/

theorem length_foreground (c : Color) : (foreground c).toList.length = 5 := by
  obtain ⟨base, bright⟩ := c
  cases base <;> cases bright <;> decide

theorem foreground_injective {c d : Color} (h : foreground c = foreground d) : c = d := by
  have hplay := congrArg (Paper.device.play {}) h
  rw [Paper.play_foreground, Paper.play_foreground] at hplay
  cases hplay
  rfl

theorem foreground_append_inj {c d : Color} {a b : String}
    (h : foreground c ++ a = foreground d ++ b) : c = d ∧ a = b := by
  have hlist := congrArg String.toList h
  rw [String.toList_append, String.toList_append] at hlist
  have hlength : (foreground c).toList.length = (foreground d).toList.length := by
    rw [length_foreground, length_foreground]
  obtain ⟨hcolor, hrest⟩ := List.append_inj hlist hlength
  exact ⟨foreground_injective (String.toList_inj.mp hcolor), String.toList_inj.mp hrest⟩

theorem foreground_append_ne_reset (c : Color) (a b : String) :
    foreground c ++ a ≠ reset ++ b := by
  intro h
  have hdigit : (foreground c).toList[2]? ≠ some '0' := by
    obtain ⟨base, bright⟩ := c
    cases base <;> cases bright <;> decide
  have hthird := congrArg (fun s : String => s.toList[2]?) h
  simp only [String.toList_append] at hthird
  rw [List.getElem?_append_left (by rw [length_foreground]; omega),
    List.getElem?_append_left (by decide)] at hthird
  exact hdigit hthird

end Terminal

open Terminal

namespace Markup

/-! ### Character by character -/

/-- The cells in color, on a terminal whose foreground is `current`, up to the final reset. -/
def typed (current : Color) : List Cell → String
  | [] => Terminal.reset
  | (c, pen) :: rest =>
    let wanted := pen.getD current
    (if wanted = current then "" else foreground wanted) ++ String.singleton c ++ typed wanted rest

theorem typed_append (current wanted : Color) (cs : List Char) (hcs : cs ≠ []) (rest : List Cell) :
    typed current ((cs.map fun c => (c, some wanted)) ++ rest) =
      (if wanted = current then "" else foreground wanted) ++ String.ofList cs ++
        typed wanted rest := by
  induction cs generalizing current with
  | nil => exact absurd rfl hcs
  | cons c cs ih =>
    rw [List.map_cons, List.cons_append, typed, Option.getD_some]
    by_cases hlast : cs = []
    · subst hlast
      rfl
    · rw [ih wanted hlast, if_pos rfl, String.empty_append, String.ofList_cons]
      simp only [String.append_assoc]

theorem colored_eq_typed (base current : Color) (segments : List Segment)
    (h : ∀ s ∈ segments, s.text ≠ "") :
    colored base current segments = typed current (shown base segments) := by
  induction segments generalizing current with
  | nil => rfl
  | cons s rest ih =>
    rw [List.forall_mem_cons] at h
    have htext : s.text.toList ≠ [] := by
      intro hnil
      exact h.1 (String.toList_eq_nil_iff.mp hnil)
    rw [shown_cons, cells, typed_append current _ s.text.toList htext, ← ih _ h.2,
      String.ofList_toList, colored]

theorem line_eq_typed (segments : List Segment) (lead : String) (base : Color) :
    line segments lead true base = foreground base ++ lead ++ typed base (shown base segments) := by
  have hnonempty := (Segment.merged_merge segments).nonempty
  have hbody := colored_eq_typed base base (Segment.merge segments) hnonempty
  rw [shown_merge] at hbody
  rw [← hbody]
  rfl

/-! ### Color sequences of use -/

/-- Between `before` and `after`, the color sequence of `c` changes the color, and a character is
put in it. -/
def Useful (p : Paper) (before : String) (c : Color) (after : String) : Prop :=
  (∃ q, Paper.device.play p before = (.plain, q) ∧ q.pen ≠ some c) ∧
    ∃ x rest, after = String.singleton x ++ rest ∧ x ≠ escape

theorem Useful.behind {p q : Paper} {first before after : String} {c : Color}
    (hfirst : Paper.device.play p first = (.plain, q)) (h : Useful q before c after) :
    Useful p (first ++ before) c after := by
  obtain ⟨⟨r, hplay, hpen⟩, hnext⟩ := h
  exact ⟨⟨r, Device.play_append hfirst hplay, hpen⟩, hnext⟩

theorem split_switch {current wanted : Color} {rest before after : String}
    (h : (if wanted = current then "" else foreground wanted) ++ rest = before ++ after)
    (hafter : OpensSequence after) :
    (before = "" ∧ wanted ≠ current ∧ after = foreground wanted ++ rest) ∨
      ∃ mid, before = (if wanted = current then "" else foreground wanted) ++ mid ∧
        rest = mid ++ after := by
  by_cases hsame : wanted = current
  · rw [if_pos hsame, String.empty_append] at h
    rw [if_pos hsame]
    exact .inr ⟨before, String.empty_append.symm, h⟩
  · rw [if_neg hsame] at h ⊢
    rcases split_sequence (by decide) h hafter with hbefore | hmid
    · rw [hbefore, String.empty_append] at h
      exact .inl ⟨hbefore, hsame, h.symm⟩
    · exact .inr hmid

/- By induction on the cells. Invariant: before each cell the pen holds the current color. -/
theorem typed_useful (current : Color) (cs : List Cell) (hcs : ∀ cell ∈ cs, cell.1 ≠ escape)
    (p : Paper) (hp : p.pen = some current) {before after : String}
    (h : typed current cs = before ++ after) (hafter : OpensSequence after) :
    after = reset ∨ ∃ c rest, after = foreground c ++ rest ∧ Useful p before c rest := by
  induction cs generalizing current p before with
  | nil =>
    have hreset : sequence 0 'm' ++ "" = before ++ after := by
      rw [String.append_empty]
      exact h
    rcases split_sequence (by decide) hreset hafter with hbefore | ⟨mid, -, hrest⟩
    · rw [hbefore, String.empty_append, String.append_empty] at hreset
      exact .inl hreset.symm
    · have hempty := (String.append_eq_empty_iff.mp hrest.symm).2
      rw [hempty] at hafter
      exact absurd hafter not_opensSequence_empty
  | cons cell rest ih =>
    obtain ⟨c, pen⟩ := cell
    rw [List.forall_mem_cons] at hcs
    have hc : EscapeFree (String.singleton c) := by
      intro x hx
      rw [String.toList_singleton, List.mem_singleton] at hx
      rw [hx]
      exact hcs.1
    rw [typed, String.append_assoc] at h
    generalize pen.getD current = wanted at h
    rcases split_switch h hafter with ⟨hbefore, hne, hstart⟩ | ⟨mid, hbefore, hmid⟩
    · have hplay : Paper.device.play p before = (.plain, p) := by
        rw [hbefore, Device.play_empty]
      have hpen : p.pen ≠ some wanted := by
        rw [hp]
        intro heq
        exact hne (Option.some.inj heq).symm
      exact .inr ⟨wanted, _, hstart, ⟨p, hplay, hpen⟩, c, _, rfl, hcs.1⟩
    · obtain ⟨mid', hmid', hrest⟩ := split_text hc hmid hafter
      have hswitch := play_switch p current wanted hp
      have hput := Paper.play_text { p with pen := some wanted } _ hc
      have hfirst := Device.play_append hswitch hput
      have htail := ih wanted hcs.2
        ⟨p.printed ++ cells (some wanted) (String.singleton c), some wanted⟩ rfl hrest
      rcases htail with hreset | ⟨d, more, hd, huseful⟩
      · exact .inl hreset
      · right
        refine ⟨d, more, hd, ?_⟩
        rw [hbefore, hmid', ← String.append_assoc]
        exact huseful.behind hfirst

theorem line_useful {segments : List Segment} {lead : String} {base : Color}
    (hlead : EscapeFree lead) (htexts : Segment.EscapeFree segments) {before after : String}
    (h : line segments lead true base = before ++ after) (hafter : OpensSequence after) :
    before = "" ∨ after = reset ∨
      ∃ c rest, after = foreground c ++ rest ∧ Useful {} before c rest := by
  have hcells : ∀ cell ∈ shown base segments, cell.1 ≠ escape := by
    intro cell hcell
    obtain ⟨p, hp, rfl⟩ := List.mem_map.mp hcell
    exact (Segment.escapeFree_iff_painted segments).mp htexts p hp
  rw [line_eq_typed, String.append_assoc] at h
  rcases split_sequence (by decide) h hafter with hbefore | ⟨mid, hbefore, hmid⟩
  · exact .inl hbefore
  · right
    obtain ⟨mid', hmid', hbody⟩ := split_text hlead hmid hafter
    have hcolor := Paper.play_foreground {} base
    have hput := Paper.play_text { pen := some base } lead hlead
    have hfirst := Device.play_append hcolor hput
    have hnext := typed_useful base _ hcells ⟨cells (some base) lead, some base⟩ rfl hbody hafter
    rcases hnext with hreset | ⟨c, rest, hc, huseful⟩
    · exact .inl hreset
    · right
      refine ⟨c, rest, hc, ?_⟩
      rw [hbefore, hmid', ← String.append_assoc]
      exact huseful.behind hfirst

/-! ### Minimal lines -/

/-- A line that starts in its base color, ends with its only reset, and changes the color only where
the next character needs another one. -/
structure Minimal (base : Color) (text : String) : Prop where
  leading : ∃ rest, text = foreground base ++ rest
  closing : ∃ body, text = body ++ reset
  needed : ∀ before c after, text = before ++ foreground c ++ after → before ≠ "" →
    Useful {} before c after
  oneReset : ∀ before after, text = before ++ reset ++ after → after = ""
  nothingElse : ∀ before after, text = before ++ after → OpensSequence after →
    after = reset ∨ ∃ c rest, after = foreground c ++ rest

theorem typed_closing (current : Color) (cs : List Cell) :
    ∃ body, typed current cs = body ++ reset := by
  induction cs generalizing current with
  | nil => exact ⟨"", String.empty_append.symm⟩
  | cons cell rest ih =>
    obtain ⟨c, pen⟩ := cell
    obtain ⟨body, hbody⟩ := ih (pen.getD current)
    rw [typed, hbody, ← String.append_assoc]
    exact ⟨_, rfl⟩

theorem minimal_line {segments : List Segment} {lead : String} {base : Color}
    (hlead : EscapeFree lead) (htexts : Segment.EscapeFree segments) :
    Minimal base (line segments lead true base) where
  leading := by
    rw [line_eq_typed, String.append_assoc]
    exact ⟨_, rfl⟩
  closing := by
    obtain ⟨body, hbody⟩ := typed_closing base (shown base segments)
    rw [line_eq_typed, hbody, ← String.append_assoc]
    exact ⟨_, rfl⟩
  needed := by
    intro before c after h hbefore
    rw [String.append_assoc] at h
    have hopens := opensSequence_sequence (colorCode c) 'm' after
    rcases line_useful hlead htexts h hopens with hempty | hreset | ⟨d, rest, hd, huseful⟩
    · exact absurd hempty hbefore
    · rw [← String.append_empty (s := reset)] at hreset
      exact absurd hreset (foreground_append_ne_reset c after "")
    · obtain ⟨hcolor, hafter⟩ := foreground_append_inj hd
      rw [hcolor, hafter]
      exact huseful
  oneReset := by
    intro before after h
    rw [String.append_assoc] at h
    have hopens := opensSequence_sequence 0 'm' after
    rcases line_useful hlead htexts h hopens with hempty | hreset | ⟨d, rest, hd, -⟩
    · rw [hempty, String.empty_append, line_eq_typed, String.append_assoc] at h
      exact absurd h (foreground_append_ne_reset base _ _)
    · have hlength := congrArg String.length hreset
      rw [String.length_append] at hlength
      exact String.length_eq_zero_iff.mp (by omega)
    · exact absurd hd.symm (foreground_append_ne_reset d _ _)
  nothingElse := by
    intro before after h hafter
    rcases line_useful hlead htexts h hafter with hempty | hreset | ⟨c, rest, hc, -⟩
    · rw [hempty, String.empty_append, line_eq_typed, String.append_assoc] at h
      exact .inr ⟨base, _, h.symm⟩
    · exact .inl hreset
    · exact .inr ⟨c, rest, hc⟩

/-- Lines in color depend on what their segments show alone: the characters and their colors, with
`base` where there is none. Without escape characters in its texts a line is minimal. -/
theorem line_as_shown (lead : String) (base : Color) :
    (∀ s t, shown base s = shown base t → line s lead true base = line t lead true base) ∧
    ∀ s, Terminal.EscapeFree lead → Segment.EscapeFree s →
      Minimal base (line s lead true base) := by
  constructor
  · intro s t h
    rw [line_eq_typed, line_eq_typed, h]
  · intro s hlead htexts
    exact minimal_line hlead htexts

/- The lists merge to different lists: only the first has segments without color. -/
theorem line_as_shown_mixed :
    let s : List Segment := [⟨none, "a"⟩, ⟨some ⟨.green, false⟩, "b"⟩, ⟨some ⟨.red, false⟩, ""⟩,
      ⟨none, ""⟩, ⟨some ⟨.red, true⟩, "c"⟩, ⟨none, "d"⟩]
    let t : List Segment := [⟨some ⟨.green, false⟩, "ab"⟩, ⟨some ⟨.red, true⟩, "c"⟩,
      ⟨some ⟨.green, false⟩, "d"⟩]
    shown ⟨.green, false⟩ s = shown ⟨.green, false⟩ t ∧ Segment.merge s ≠ Segment.merge t ∧
      Terminal.EscapeFree "> " ∧ Segment.EscapeFree s ∧
      line s "> " true ⟨.green, false⟩ = line t "> " true ⟨.green, false⟩ ∧
      Minimal ⟨.green, false⟩ (line s "> " true ⟨.green, false⟩) := by
  intro s t
  have hshown : shown ⟨.green, false⟩ s = shown ⟨.green, false⟩ t := by decide
  have hmerge : Segment.merge s ≠ Segment.merge t := by decide
  have hlead : Terminal.EscapeFree "> " := by decide
  have htexts : Segment.EscapeFree s := by decide
  obtain ⟨hsame, hminimal⟩ := line_as_shown "> " ⟨.green, false⟩
  exact ⟨hshown, hmerge, hlead, htexts, hsame s t hshown, hminimal s hlead htexts⟩

end Markup

end MarkupLog
