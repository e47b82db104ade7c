import MarkupLog.Proofs.Line
import MarkupLog.Proofs.Markers

/-!
# Plain texts

What remains of a text without its markers does not depend on the color that emphasis has: emphasis
decides which regions have which color, and so which neighbours are merged, but not where the
regions are.
-/

namespace MarkupLog

namespace Segment

theorem plainText_eq_painted (segments : List Segment) :
    plainText segments = String.ofList ((painted segments).map Prod.fst) := by
  induction segments with
  | nil => rfl
  | cons s rest ih =>
    have hfirst : ((s.text.toList.map fun c => (c, s.color)).map Prod.fst) = s.text.toList := by
      rw [List.map_map]
      exact List.map_id _
    show s.text ++ plainText rest = _
    rw [ih, painted_cons, List.map_append, hfirst, String.ofList_append, String.ofList_toList]

theorem plainText_merge (segments : List Segment) :
    plainText (merge segments) = plainText segments := by
  rw [plainText_eq_painted, painted_merge, ← plainText_eq_painted]

end Segment

namespace Markup

/-- The characters outside the markers. -/
def Cut.plain (cut : Cut) : List Char :=
  cut.head ++ cut.marked.flatMap Prod.snd

theorem sublist_plain_cut (cs : List Char) : (cutAtMarkers cs).plain.Sublist cs := by
  induction cs using cutAtMarkers.induct with
  | case1 cs c rest hmark hshorter ih =>
    obtain ⟨rfl, hc⟩ := marker?_eq_some_iff.mp hmark
    rw [cutAtMarkers_marker hc rest]
    exact ((((ih.cons _).cons _).cons _).cons _).cons _
  | case2 =>
    rw [cutAtMarkers_nil]
    exact List.Sublist.slnil
  | case3 x rest hnone ih =>
    rw [cutAtMarkers_cons hnone]
    exact ih.cons_cons x

theorem map_fst_painted_regions (emphasis : BaseColor) (inside : Bool)
    (marked : List (Char × List Char)) :
    (Segment.painted (regions emphasis inside marked)).map Prod.fst = marked.flatMap Prod.snd := by
  induction marked generalizing inside with
  | nil => rfl
  | cons m rest ih =>
    obtain ⟨c, text⟩ := m
    rw [regions, painted_ofList, List.map_append, ih, List.map_map, List.flatMap_cons]
    exact congrArg (· ++ _) (List.map_id _)

theorem map_fst_painted_parse (emphasis : BaseColor) (text : String) :
    (Segment.painted (parse emphasis text)).map Prod.fst = (cutAtMarkers text.toList).plain := by
  unfold parse
  rw [Segment.painted_merge, painted_ofList, List.map_append, map_fst_painted_regions,
    List.map_map]
  exact congrArg (· ++ _) (List.map_id _)

theorem plainText_parse (emphasis : BaseColor) (text : String) :
    Segment.plainText (parse emphasis text) = strip text := by
  unfold strip
  rw [Segment.plainText_eq_painted, Segment.plainText_eq_painted, map_fst_painted_parse,
    map_fst_painted_parse]

theorem strip_sublist (text : String) : (strip text).toList.Sublist text.toList := by
  unfold strip
  rw [Segment.plainText_eq_painted, map_fst_painted_parse, String.toList_ofList]
  exact sublist_plain_cut text.toList

theorem escapeFree_strip {text : String} (h : Terminal.EscapeFree text) :
    Terminal.EscapeFree (strip text) := by
  intro c hc
  exact h c ((strip_sublist text).subset hc)

theorem escapeFree_parse (emphasis : BaseColor) {text : String} (h : Terminal.EscapeFree text) :
    Segment.EscapeFree (parse emphasis text) := by
  rw [Segment.escapeFree_iff_painted]
  intro p hp
  have hfirst : p.1 ∈ (Segment.painted (parse emphasis text)).map Prod.fst :=
    List.mem_map_of_mem hp
  rw [map_fst_painted_parse] at hfirst
  exact h p.1 ((sublist_plain_cut text.toList).subset hfirst)

end Markup

end MarkupLog
