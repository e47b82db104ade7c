import MarkupLog.Color

/-!
# Segments

A colored text is a list of segments, each with one color or none. Merging drops the empty segments
and joins neighbours of one color; the characters and their colors stay as they are.
-/

namespace MarkupLog

/-- A run of text in one color; `none` stands for the color of the line. -/
structure Segment where
  color : Option Color
  text : String
  deriving Repr, DecidableEq

namespace Segment

/-- The characters of the segments, each with its color. -/
def painted (segments : List Segment) : List (Char × Option Color) :=
  segments.flatMap fun s => s.text.toList.map fun c => (c, s.color)

def attach (s : Segment) : List Segment → List Segment
  | [] => [s]
  | t :: rest =>
    if s.color = t.color then ⟨s.color, s.text ++ t.text⟩ :: rest else s :: t :: rest

/-- The merged segments: none is empty, and neighbours differ in color. -/
def merge : List Segment → List Segment
  | [] => []
  | s :: rest => if s.text = "" then merge rest else s.attach (merge rest)

def plainText (segments : List Segment) : String :=
  segments.foldr (fun s acc => s.text ++ acc) ""

@[simp] theorem painted_nil : painted [] = [] := rfl

@[simp] theorem painted_cons (s : Segment) (rest : List Segment) :
    painted (s :: rest) = (s.text.toList.map fun c => (c, s.color)) ++ painted rest := rfl

theorem painted_attach (s : Segment) (rest : List Segment) :
    painted (s.attach rest) = painted (s :: rest) := by
  cases rest with
  | nil => rfl
  | cons t rest =>
    by_cases h : s.color = t.color
    · simp [attach, h]
    · simp [attach, h]

theorem painted_merge (segments : List Segment) : painted (merge segments) = painted segments := by
  induction segments with
  | nil => rfl
  | cons s rest ih =>
    unfold merge
    split
    · rename_i h
      simp [ih, h]
    · rw [painted_attach, painted_cons, ih, painted_cons]

end Segment

end MarkupLog
