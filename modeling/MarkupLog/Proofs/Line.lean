import MarkupLog.Markup.Line
import MarkupLog.Proofs.Terminal

/-!
# Lines on paper

A line writes a color sequence only where the color changes. What the reader sees is therefore a
matter of the terminal's memory: the writer's idea of the current color and the pen of the terminal
have to agree at every character.
-/

namespace MarkupLog

open Terminal

/-! ### Texts without escape characters -/

namespace Segment

def EscapeFree (segments : List Segment) : Prop :=
  ∀ s ∈ segments, Terminal.EscapeFree s.text

instance (segments : List Segment) : Decidable (EscapeFree segments) :=
  inferInstanceAs (Decidable (∀ s ∈ segments, Terminal.EscapeFree s.text))

theorem escapeFree_iff_painted (segments : List Segment) :
    EscapeFree segments ↔ ∀ p ∈ painted segments, p.1 ≠ escape := by
  constructor
  · intro h p hp
    obtain ⟨s, hs, hp⟩ := List.mem_flatMap.mp hp
    obtain ⟨c, hc, rfl⟩ := List.mem_map.mp hp
    exact h s hs c hc
  · intro h s hs c hc
    have hmem : (c, s.color) ∈ painted segments :=
      List.mem_flatMap.mpr ⟨s, hs, List.mem_map.mpr ⟨c, hc, rfl⟩⟩
    exact h (c, s.color) hmem

theorem escapeFree_merge (segments : List Segment) (h : EscapeFree segments) :
    EscapeFree (merge segments) := by
  rw [escapeFree_iff_painted, painted_merge]
  exact (escapeFree_iff_painted segments).mp h

theorem escapeFree_cons (s : Segment) (rest : List Segment) :
    EscapeFree (s :: rest) ↔ Terminal.EscapeFree s.text ∧ EscapeFree rest := by
  simp only [EscapeFree, List.forall_mem_cons]

end Segment

/-! ### What a line shows -/

namespace Markup

/-- The characters of the segments as a line shows them: `base` stands in where there is no color. -/
def shown (base : Color) (segments : List Segment) : List Cell :=
  (Segment.painted segments).map fun p => (p.1, some (p.2.getD base))

theorem shown_cons (base : Color) (s : Segment) (rest : List Segment) :
    shown base (s :: rest) = cells (some (s.color.getD base)) s.text ++ shown base rest := by
  simp only [shown, Segment.painted_cons, List.map_append, List.map_map, cells, Function.comp_def]

theorem shown_merge (base : Color) (segments : List Segment) :
    shown base (Segment.merge segments) = shown base segments := by
  unfold shown
  rw [Segment.painted_merge]

theorem play_switch (p : Paper) (current wanted : Color) (hp : p.pen = some current) :
    Paper.device.play p (if wanted = current then "" else foreground wanted) =
      (.plain, { p with pen := some wanted }) := by
  by_cases h : wanted = current
  · subst h
    rw [if_pos rfl, Device.play_empty, ← hp]
  · rw [if_neg h, Paper.play_foreground]

/- Invariant: before each segment the pen holds the writer's current color. -/
theorem play_colored (base current : Color) (segments : List Segment) (p : Paper)
    (hp : p.pen = some current) (h : Segment.EscapeFree segments) :
    Paper.device.play p (colored base current segments) =
      (.plain, { printed := p.printed ++ shown base segments, pen := none }) := by
  induction segments generalizing current p with
  | nil =>
    rw [colored, Paper.play_reset]
    simp [shown]
  | cons s rest ih =>
    obtain ⟨htext, hrest⟩ := (Segment.escapeFree_cons s rest).mp h
    have hswitch := play_switch p current (s.color.getD base) hp
    have htyped := Paper.play_text { p with pen := some (s.color.getD base) } s.text htext
    have htail := ih (s.color.getD base)
      ⟨p.printed ++ cells (some (s.color.getD base)) s.text, some (s.color.getD base)⟩ rfl hrest
    rw [shown_cons, ← List.append_assoc]
    exact Device.play_append (Device.play_append hswitch htyped) htail

theorem line_prints_colors (segments : List Segment) (lead : String) (base : Color)
    (hlead : Terminal.EscapeFree lead) (htexts : Segment.EscapeFree segments) :
    Paper.device.play {} (line segments lead true base) =
      (.plain, { printed := cells (some base) lead ++ shown base segments, pen := none }) := by
  have hcolor := Paper.play_foreground {} base
  have hleadText := Paper.play_text { pen := some base } lead hlead
  have hbody := play_colored base base (Segment.merge segments)
    ⟨cells (some base) lead, some base⟩ rfl (Segment.escapeFree_merge segments htexts)
  rw [shown_merge] at hbody
  exact Device.play_append (Device.play_append hcolor hleadText) hbody

/- The second segment is empty, the third has the base color, the fourth none: one color sequence
suffices before the last one. -/
theorem line_prints_colors_mixed :
    Terminal.EscapeFree "> " ∧
    Segment.EscapeFree [⟨none, "a"⟩, ⟨some ⟨.red, true⟩, ""⟩, ⟨some ⟨.green, false⟩, "[["⟩,
      ⟨none, "b"⟩, ⟨some ⟨.red, true⟩, "c"⟩] ∧
    Paper.device.play {} (line [⟨none, "a"⟩, ⟨some ⟨.red, true⟩, ""⟩, ⟨some ⟨.green, false⟩, "[["⟩,
      ⟨none, "b"⟩, ⟨some ⟨.red, true⟩, "c"⟩] "> " true ⟨.green, false⟩) =
      (.plain, { printed := cells (some ⟨.green, false⟩) "> a[[b" ++ cells (some ⟨.red, true⟩) "c",
                 pen := none }) :=
  ⟨by decide, by decide, line_prints_colors _ _ _ (by decide) (by decide)⟩

end Markup

end MarkupLog
