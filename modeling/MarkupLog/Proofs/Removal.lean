import MarkupLog.Proofs.Line

/-!
# Removing color again

A text is freed of its color by deleting the sequences that select it. What counts as a sequence
differs from tool to tool: the console deletes any control sequence, others only a style, which is
escape, bracket, some parameters and a letter. For lines the difference does not matter. Every
removal that deletes color sequences and keeps other characters leaves the lead and the texts.
-/

namespace MarkupLog

namespace Terminal

/-! ### What is left of a text -/

/-- The characters outside the sequences that `find` recognizes at the start of a text. -/
def outside (find : List Char → Option (List Char))
    (shorter : ∀ cs rest, find cs = some rest → rest.length < cs.length) (cs : List Char) :
    List Char :=
  match h : find cs with
  | some rest =>
    have := shorter cs rest h
    outside find shorter rest
  | none =>
    match cs with
    | [] => []
    | c :: rest => c :: outside find shorter rest
termination_by cs.length

section Outside

variable {find : List Char → Option (List Char)}
  {shorter : ∀ cs rest, find cs = some rest → rest.length < cs.length}

theorem outside_of_some {cs rest : List Char} (h : find cs = some rest) :
    outside find shorter cs = outside find shorter rest := by
  rw [outside]
  split
  · rename_i h'
    rw [h] at h'
    cases h'
    rfl
  · rename_i h'
    rw [h] at h'
    cases h'

theorem outside_cons {c : Char} {cs : List Char} (h : find (c :: cs) = none) :
    outside find shorter (c :: cs) = c :: outside find shorter cs := by
  rw [outside]
  split
  · rename_i h'
    rw [h] at h'
    cases h'
  · rfl

theorem outside_nil : outside find shorter [] = [] := by
  rw [outside]
  split
  · rename_i rest h
    exact absurd (shorter [] rest h) (Nat.not_lt_zero _)
  · rfl

end Outside

theorem visible_eq_outside (cs : List Char) :
    visible cs = outside dropSequence (fun _ _ => length_dropSequence) cs := by
  induction cs using visible.induct with
  | case1 cs rest hfound hshorter ih =>
    rw [visible, outside_of_some hfound, ← ih]
    split
    · rename_i h'
      rw [hfound] at h'
      cases h'
      rfl
    · rename_i h'
      rw [hfound] at h'
      cases h'
  | case2 hnone =>
    rw [visible, outside_nil]
    rfl
  | case3 c rest hnone ih =>
    rw [visible, outside_cons hnone, ← ih]
    split
    · rename_i h'
      rw [hnone] at h'
      cases h'
    · rfl

/-! ### Styles -/

def isStyleParameter (c : Char) : Bool :=
  c.isDigit || c = ';' || c = '?'

/-- What follows a style at the start of a text, if there is one. -/
def dropStyle : List Char → Option (List Char)
  | '\x1b' :: '[' :: rest =>
    match rest.dropWhile isStyleParameter with
    | [] => none
    | c :: more => if c.isAlpha then some more else none
  | _ => none

theorem length_dropStyle {cs rest : List Char} (h : dropStyle cs = some rest) :
    rest.length < cs.length := by
  unfold dropStyle at h
  split at h
  · rename_i tail
    have hshorter := length_dropWhile_le isStyleParameter tail
    split at h
    · cases h
    · rename_i c more hc
      rw [hc] at hshorter
      split at h
      · cases h
        simp only [List.length_cons] at *
        omega
      · cases h
  · cases h

def withoutStyles (s : String) : String :=
  String.ofList (outside dropStyle (fun _ _ => length_dropStyle) s.toList)

/-! ### Removals -/

/-- A removal deletes color sequences and keeps all characters but the escape character. -/
structure RemovesColor (remove : List Char → List Char) : Prop where
  empty : remove [] = []
  keeps : ∀ c cs, c ≠ escape → remove (c :: cs) = c :: remove cs
  deletes : ∀ n cs, remove ((sequence n 'm').toList ++ cs) = remove cs

theorem removesColor_outside {find : List Char → Option (List Char)}
    (shorter : ∀ cs rest, find cs = some rest → rest.length < cs.length)
    (hother : ∀ c cs, c ≠ escape → find (c :: cs) = none)
    (hcolor : ∀ n cs, find ((sequence n 'm').toList ++ cs) = some cs) :
    RemovesColor (outside find shorter) where
  empty := outside_nil
  keeps c cs hc := outside_cons (hother c cs hc)
  deletes n cs := outside_of_some (hcolor n cs)

theorem toList_sequence_append (n : Nat) (letter : Char) (cs : List Char) :
    (sequence n letter).toList ++ cs =
      '\x1b' :: '[' :: (Number.decimalText n ++ letter :: cs) := by
  simp [sequence, escape, List.append_assoc]

theorem isDigit_decimalText (n : Nat) : ∀ c ∈ Number.decimalText n, c.isDigit := by
  intro c hc
  exact Nat.isDigit_of_mem_toDigits (by omega) (by omega) hc

theorem isParameter_of_isDigit {c : Char} (h : c.isDigit) : isParameter c := by
  simp only [Char.isDigit, Bool.and_eq_true, decide_eq_true_eq] at h
  have hhigh : c ≤ '?' := Char.le_def.mpr (UInt32.le_trans h.2 (by decide))
  simp only [isParameter, Bool.and_eq_true, decide_eq_true_eq]
  exact ⟨Char.le_def.mpr h.1, hhigh⟩

theorem removesColor_styles :
    RemovesColor (outside dropStyle fun _ _ => length_dropStyle) := by
  refine removesColor_outside _ ?_ ?_
  · intro c cs hc
    unfold dropStyle
    split
    · rename_i heq
      cases heq
      exact absurd rfl hc
    · rfl
  · intro n cs
    have hdigits : ∀ c ∈ Number.decimalText n, isStyleParameter c := by
      intro c hc
      simp [isStyleParameter, isDigit_decimalText n c hc]
    rw [toList_sequence_append]
    simp only [dropStyle, List.dropWhile_append_of_pos hdigits]
    rfl

theorem removesColor_visible : RemovesColor visible := by
  have hvisible : visible = outside dropSequence fun _ _ => length_dropSequence :=
    funext visible_eq_outside
  rw [hvisible]
  refine removesColor_outside _ ?_ ?_
  · intro c cs hc
    unfold dropSequence
    split
    · rename_i heq
      cases heq
      exact absurd rfl hc
    · rfl
  · intro n cs
    have hdigits : ∀ c ∈ Number.decimalText n, isParameter c := by
      intro c hc
      exact isParameter_of_isDigit (isDigit_decimalText n c hc)
    rw [toList_sequence_append]
    simp only [dropSequence, List.dropWhile_append_of_pos hdigits]
    rfl

/-! ### Texts and lines -/

theorem escapeFree_append (a b : String) :
    EscapeFree (a ++ b) ↔ EscapeFree a ∧ EscapeFree b := by
  simp only [EscapeFree, String.toList_append, List.forall_mem_append]

namespace RemovesColor

variable {remove : List Char → List Char} (h : RemovesColor remove)

include h

theorem text_append (cs rest : List Char) (hcs : ∀ c ∈ cs, c ≠ escape) :
    remove (cs ++ rest) = cs ++ remove rest := by
  induction cs with
  | nil => rfl
  | cons c cs ih =>
    have hc : c ≠ escape := hcs c (List.mem_cons_self ..)
    have hrest : ∀ x ∈ cs, x ≠ escape := fun x hx => hcs x (List.mem_cons_of_mem _ hx)
    rw [List.cons_append, h.keeps c _ hc, ih hrest, List.cons_append]

theorem text (text : String) (htext : EscapeFree text) : remove text.toList = text.toList := by
  have hall := h.text_append text.toList [] htext
  rw [List.append_nil, h.empty, List.append_nil] at hall
  exact hall

theorem switch_append (current wanted : Color) (rest : List Char) :
    remove ((if wanted = current then "" else foreground wanted).toList ++ rest) = remove rest := by
  by_cases hsame : wanted = current
  · rw [if_pos hsame]
    rfl
  · rw [if_neg hsame]
    exact h.deletes _ _

/- By induction on the segments: at most one color sequence stands before each of them. -/
theorem colored (base current : Color) (segments : List Segment)
    (hsegments : Segment.EscapeFree segments) :
    remove (Markup.colored base current segments).toList = (Segment.plainText segments).toList := by
  induction segments generalizing current with
  | nil =>
    have hreset := h.deletes 0 []
    rw [List.append_nil, h.empty] at hreset
    exact hreset
  | cons s rest ih =>
    obtain ⟨htext, hrest⟩ := (Segment.escapeFree_cons s rest).mp hsegments
    have htail := ih (s.color.getD base) hrest
    have hplain : (Segment.plainText (s :: rest)).toList =
        s.text.toList ++ (Segment.plainText rest).toList := String.toList_append
    rw [Markup.colored, String.toList_append, String.toList_append, List.append_assoc,
      h.switch_append, h.text_append _ _ htext, htail, hplain]

theorem coloredLine (segments : List Segment) (lead : String) (base : Color)
    (hlead : EscapeFree lead) (hsegments : Segment.EscapeFree segments) :
    remove (Markup.line segments lead true base).toList =
      (lead ++ Segment.plainText (Segment.merge segments)).toList := by
  have hbody := h.colored base base _ (Segment.escapeFree_merge segments hsegments)
  have hline : (Markup.line segments lead true base).toList = (foreground base).toList ++
      (lead.toList ++ (Markup.colored base base (Segment.merge segments)).toList) := by
    show (foreground base ++ lead ++ _).toList = _
    rw [String.toList_append, String.toList_append, List.append_assoc]
  rw [hline, foreground, h.deletes, h.text_append _ _ hlead, hbody, String.toList_append]

end RemovesColor

end Terminal

end MarkupLog
