/-!
# Pieces of a text

Cutting a text at a separator and putting pieces together again.
-/

namespace MarkupLog.Text

/-- The pieces of a list between the elements equal to `sep`; `n` separators make `n + 1` pieces. -/
def pieces {α : Type} [DecidableEq α] (sep : α) : List α → List (List α)
  | [] => [[]]
  | c :: cs =>
    if c = sep then [] :: pieces sep cs
    else match pieces sep cs with
      | [] => [[c]]
      | p :: ps => (c :: p) :: ps

/-- The pieces of a text between the characters equal to `sep`. -/
def split (sep : Char) (s : String) : List String :=
  (pieces sep s.toList).map String.ofList

/-- The texts one after the other with `sep` between neighbours. -/
def join (sep : String) : List String → String
  | [] => ""
  | [s] => s
  | s :: rest => s ++ sep ++ join sep rest

/-- A text filled up with spaces on its right to at least the given length. -/
def padRight (width : Nat) (s : String) : String :=
  s ++ String.ofList (List.replicate (width - s.length) ' ')

def spaces (n : Nat) : String :=
  String.ofList (List.replicate n ' ')

end MarkupLog.Text
