import MarkupLog.Proofs.PlainText
import MarkupLog.Proofs.Removal

/-!
# Line by line

No marker and no control sequence goes over the end of a line. Without them a text of several lines
is what remains of each line, whatever is left open at the end of the one before.
-/

namespace MarkupLog

namespace Text

/-- The texts, each on a line of its own. -/
def lines (texts : List String) : String :=
  String.join (texts.map (· ++ "\n"))

/-- A function on texts that does to a line what it does to the text of the line. -/
structure Linewise (f : String → String) : Prop where
  empty : f "" = ""
  line : ∀ text rest, f (text ++ "\n" ++ rest) = f text ++ "\n" ++ f rest

namespace Linewise

variable {f g : String → String}

theorem newline (h : Linewise f) (text : String) : f (text ++ "\n") = f text ++ "\n" := by
  have hline := h.line text ""
  rw [String.append_empty, h.empty, String.append_empty] at hline
  exact hline

theorem comp (hf : Linewise f) (hg : Linewise g) : Linewise (f ∘ g) where
  empty := by rw [Function.comp_apply, hg.empty, hf.empty]
  line text rest := by simp only [Function.comp_apply, hg.line, hf.line]

theorem lines (h : Linewise f) (texts : List String) :
    f (Text.lines texts) = Text.lines (texts.map f) := by
  unfold Text.lines
  induction texts with
  | nil => exact h.empty
  | cons t rest ih =>
    rw [List.map_cons, List.map_cons, List.map_cons, String.join_cons, String.join_cons, h.line, ih]

end Linewise

end Text

open Text

namespace Terminal

/-! ### What is found in a line -/

/-- What is found at the start of a line ends in it and does not depend on what follows the line. -/
def FindsInLine (find : List Char → Option (List Char)) : Prop :=
  ∀ cs rest, find (cs ++ '\n' :: rest) = (find cs).map (· ++ '\n' :: rest)

section Outside

variable {find : List Char → Option (List Char)}
  {shorter : ∀ cs rest, find cs = some rest → rest.length < cs.length}

theorem outside_append_newline (h : FindsInLine find) (cs rest : List Char) :
    outside find shorter (cs ++ '\n' :: rest) =
      outside find shorter cs ++ '\n' :: outside find shorter rest := by
  induction cs using outside.induct find shorter with
  | case1 cs behind hfound _ ih =>
    have hlonger : find (cs ++ '\n' :: rest) = some (behind ++ '\n' :: rest) := by
      rw [h, hfound]
      rfl
    rw [outside_of_some hfound, outside_of_some hlonger, ih]
  | case2 hnone =>
    have hlonger : find ('\n' :: rest) = none := by
      rw [← List.nil_append ('\n' :: rest), h, hnone]
      rfl
    rw [List.nil_append, outside_cons hlonger, outside_nil]
    rfl
  | case3 c cs hnone ih =>
    have hlonger : find (c :: (cs ++ '\n' :: rest)) = none := by
      rw [← List.cons_append, h, hnone]
      rfl
    rw [List.cons_append, outside_cons hlonger, outside_cons hnone, ih, List.cons_append]

theorem linewise_outside (h : FindsInLine find) :
    Linewise fun s => String.ofList (outside find shorter s.toList) where
  empty := by rw [String.toList_empty, outside_nil, String.ofList_nil]
  line text rest := by
    have hlist : (text ++ "\n" ++ rest).toList = text.toList ++ '\n' :: rest.toList := by
      rw [String.toList_append, String.toList_append, List.append_assoc]
      rfl
    rw [hlist, outside_append_newline h, String.ofList_append, String.ofList_cons,
      String.append_assoc]
    rfl

end Outside

/-! ### Control sequences -/

theorem dropWhile_append_newline {p : Char → Bool} (hp : p '\n' = false) (cs rest : List Char) :
    (cs ++ '\n' :: rest).dropWhile p = cs.dropWhile p ++ '\n' :: rest := by
  have hrest : ('\n' :: rest).dropWhile p = '\n' :: rest := by
    rw [List.dropWhile_cons_of_neg (by rw [hp]; decide)]
  rw [List.dropWhile_append, hrest]
  split
  · rename_i hempty
    rw [List.isEmpty_iff.mp hempty, List.nil_append]
  · rfl

/- The start of a control sequence holds no line feed either. -/
theorem findsInLine_of_bracket {find : List Char → Option (List Char)}
    (hother : ∀ cs, (∀ tail, cs ≠ '\x1b' :: '[' :: tail) → find cs = none)
    (hbracket : ∀ tail rest, find ('\x1b' :: '[' :: (tail ++ '\n' :: rest)) =
      (find ('\x1b' :: '[' :: tail)).map (· ++ '\n' :: rest)) :
    FindsInLine find := by
  intro cs rest
  by_cases hstart : ∃ tail, cs = '\x1b' :: '[' :: tail
  · obtain ⟨tail, rfl⟩ := hstart
    exact hbracket tail rest
  · have hnot : ∀ tail, cs ≠ '\x1b' :: '[' :: tail := fun tail h => hstart ⟨tail, h⟩
    have hlonger : ∀ tail, cs ++ '\n' :: rest ≠ '\x1b' :: '[' :: tail := by
      intro tail h
      cases cs with
      | nil => simp at h
      | cons c cs =>
        cases cs with
        | nil => simp at h
        | cons d cs =>
          simp only [List.cons_append, List.cons.injEq] at h
          exact hnot cs (by rw [h.1, h.2.1])
    rw [hother _ hnot, hother _ hlonger]
    rfl

theorem findsInLine_dropSequence : FindsInLine dropSequence := by
  refine findsInLine_of_bracket ?_ ?_
  · intro cs h
    unfold dropSequence
    split
    · exact absurd rfl (h _)
    · rfl
  · intro tail rest
    have hrest : ((tail ++ '\n' :: rest).dropWhile isParameter).dropWhile isIntermediate =
        (tail.dropWhile isParameter).dropWhile isIntermediate ++ '\n' :: rest := by
      rw [dropWhile_append_newline (by decide), dropWhile_append_newline (by decide)]
    simp only [dropSequence, hrest]
    cases (tail.dropWhile isParameter).dropWhile isIntermediate with
    | nil => rfl
    | cons c more => by_cases hc : isFinal c = true <;> simp [hc]

theorem findsInLine_dropStyle : FindsInLine dropStyle := by
  refine findsInLine_of_bracket ?_ ?_
  · intro cs h
    unfold dropStyle
    split
    · exact absurd rfl (h _)
    · rfl
  · intro tail rest
    have hrest : (tail ++ '\n' :: rest).dropWhile isStyleParameter =
        tail.dropWhile isStyleParameter ++ '\n' :: rest :=
      dropWhile_append_newline (by decide) tail rest
    simp only [dropStyle, hrest]
    cases tail.dropWhile isStyleParameter with
    | nil => rfl
    | cons c more => by_cases hc : c.isAlpha = true <;> simp [hc]

theorem linewise_unstyled : Linewise unstyled := by
  have hunstyled : unstyled = fun s => String.ofList
      (outside dropSequence (fun _ _ => length_dropSequence) s.toList) := by
    funext s
    rw [unstyled, visible_eq_outside]
  rw [hunstyled]
  exact linewise_outside findsInLine_dropSequence

theorem linewise_withoutStyles : Linewise withoutStyles :=
  linewise_outside findsInLine_dropStyle

end Terminal

/-! ### Markers -/

namespace Markup

open Terminal

/-- What follows a marker at the start of a text, if there is one. -/
def dropMarker (cs : List Char) : Option (List Char) :=
  (marker? cs).map Prod.snd

theorem dropMarker_eq_some_iff {cs rest : List Char} :
    dropMarker cs = some rest ↔ ∃ c, marker? cs = some (c, rest) := by
  simp [dropMarker]

theorem length_dropMarker {cs rest : List Char} (h : dropMarker cs = some rest) :
    rest.length < cs.length := by
  obtain ⟨c, hmark⟩ := dropMarker_eq_some_iff.mp h
  exact length_marker? hmark

theorem marker?_append {cs tail : List Char} {c : Char} (h : marker? cs = some (c, tail))
    (rest : List Char) : marker? (cs ++ rest) = some (c, tail ++ rest) := by
  obtain ⟨rfl, hc⟩ := marker?_eq_some_iff.mp h
  exact marker?_eq_some_iff.mpr ⟨rfl, hc⟩

/- A marker in front of a line feed ends there, since none of its five characters is one. -/
theorem marker?_of_append_newline {cs rest tail : List Char} {c : Char}
    (h : marker? (cs ++ '\n' :: rest) = some (c, tail)) : ∃ more, marker? cs = some (c, more) := by
  obtain ⟨htext, hc⟩ := marker?_eq_some_iff.mp h
  have hfive : '\n' ∉ ['[', '[', c, ']', ']'] := by
    have hletter : c ≠ '\n' := by
      rintro rfl
      exact absurd hc (by decide)
    simp [hletter.symm]
  have hsplit : cs ++ '\n' :: rest = ['[', '[', c, ']', ']'] ++ tail := htext
  rcases List.append_eq_append_iff.mp hsplit with ⟨more, hmarker, hrest⟩ | ⟨more, hcs, -⟩
  · cases more with
    | nil =>
      rw [List.append_nil] at hmarker
      exact ⟨[], marker?_eq_some_iff.mpr ⟨hmarker.symm, hc⟩⟩
    | cons d more =>
      obtain rfl : '\n' = d := (List.cons.inj hrest).1
      rw [hmarker] at hfive
      exact absurd (List.mem_append_right cs List.mem_cons_self) hfive
  · exact ⟨more, marker?_eq_some_iff.mpr ⟨hcs, hc⟩⟩

theorem findsInLine_dropMarker : FindsInLine dropMarker := by
  intro cs rest
  unfold dropMarker
  cases hmark : marker? cs with
  | some p =>
    obtain ⟨c, tail⟩ := p
    rw [marker?_append hmark]
    rfl
  | none =>
    cases hlonger : marker? (cs ++ '\n' :: rest) with
    | none => rfl
    | some p =>
      obtain ⟨more, hmore⟩ := marker?_of_append_newline hlonger
      rw [hmark] at hmore
      cases hmore

theorem plain_cut_eq_outside (cs : List Char) :
    (cutAtMarkers cs).plain = outside dropMarker (fun _ _ => length_dropMarker) cs := by
  induction cs using cutAtMarkers.induct with
  | case1 cs c rest hmark _ ih =>
    have hfound : dropMarker cs = some rest := dropMarker_eq_some_iff.mpr ⟨c, hmark⟩
    obtain ⟨rfl, hc⟩ := marker?_eq_some_iff.mp hmark
    rw [outside_of_some hfound, ← ih, cutAtMarkers_marker hc rest]
    rfl
  | case2 =>
    rw [cutAtMarkers_nil, outside_nil]
    rfl
  | case3 c rest hnone ih =>
    have hfound : dropMarker (c :: rest) = none := by rw [dropMarker, hnone]; rfl
    rw [outside_cons hfound, ← ih, cutAtMarkers_cons hnone]
    rfl

theorem linewise_strip : Linewise strip := by
  have hstrip : strip = fun s => String.ofList
      (outside dropMarker (fun _ _ => length_dropMarker) s.toList) := by
    funext s
    rw [strip, Segment.plainText_eq_painted, map_fst_painted_parse, plain_cut_eq_outside]
  rw [hstrip]
  exact linewise_outside findsInLine_dropMarker

end Markup

end MarkupLog
