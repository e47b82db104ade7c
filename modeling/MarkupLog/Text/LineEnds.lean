/-!
# Line ends

Texts come with three kinds of line ends: a line feed, a carriage return, and the one after the
other. Reading a text makes all of them line feeds.
-/

namespace MarkupLog.Text

/-- The characters of a text with a line feed for every line end. -/
def withLineFeeds : List Char → List Char
  | [] => []
  | '\r' :: '\n' :: cs => '\n' :: withLineFeeds cs
  | c :: cs => (if c = '\r' then '\n' else c) :: withLineFeeds cs

def plainLines (s : String) : String :=
  String.ofList (withLineFeeds s.toList)

theorem withLineFeeds_of_no_return (cs : List Char) (h : ∀ c ∈ cs, c ≠ '\r') :
    withLineFeeds cs = cs := by
  induction cs with
  | nil => rfl
  | cons c cs ih =>
    have hc : c ≠ '\r' := h c (by simp)
    have ht := ih fun d hd => h d (by simp [hd])
    unfold withLineFeeds
    split
    · rename_i heq
      cases heq
    · rename_i heq
      cases heq
      exact absurd rfl hc
    · rename_i heq
      cases heq
      simp [hc, ht]

end MarkupLog.Text
