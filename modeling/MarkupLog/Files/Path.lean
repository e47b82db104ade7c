import MarkupLog.Text.Split

/-!
# Paths

A path is a series of names below the root or below the current directory. Reading a path drops the
parts that change nothing, which are empty ones and single dots; two dots stay, because what they
mean depends on the files.
-/

namespace MarkupLog

/-- Where a path begins: in the current directory, at the root, or at the root written with two
slashes, which are kept. -/
inductive Anchor
  | current
  | root
  | doubleRoot
  deriving Repr, DecidableEq

def Anchor.text : Anchor → String
  | .current => ""
  | .root => "/"
  | .doubleRoot => "//"

structure Path where
  anchor : Anchor
  names : List String
  deriving Repr, DecidableEq

namespace Path

def anchorOf : List Char → Anchor
  | '/' :: '/' :: '/' :: _ => .root
  | '/' :: '/' :: _ => .doubleRoot
  | '/' :: _ => .root
  | _ => .current

def namesOf (s : String) : List String :=
  (Text.split '/' s).filter fun name => name ≠ "" ∧ name ≠ "."

def ofText (s : String) : Path :=
  ⟨anchorOf s.toList, namesOf s⟩

/-- The text of a path. The current directory is a single dot. -/
def text (p : Path) : String :=
  if p.anchor = .current ∧ p.names = [] then "."
  else p.anchor.text ++ Text.join "/" p.names

/-- The last name of a path; empty if the path has no name. -/
def name (p : Path) : String :=
  p.names.getLast?.getD ""

def child (p : Path) (name : String) : Path :=
  { p with names := p.names ++ [name] }

/-- The absolute path of the directory with the given names below the root. -/
def ofNames (names : List String) : Path :=
  ⟨.root, names⟩

/-- A list and its beginnings, the longest first. -/
def beginnings {α : Type} : List α → List (List α)
  | [] => [[]]
  | a :: rest => (beginnings rest).map (a :: ·) ++ [[]]

/-- A directory and those above it, as far as its path names them, the nearest first. -/
def upward (p : Path) : List Path :=
  (beginnings p.names).map fun names => { p with names }

theorem beginnings_append_singleton {α : Type} (l : List α) (a : α) :
    beginnings (l ++ [a]) = (l ++ [a]) :: beginnings l := by
  induction l with
  | nil => rfl
  | cons b l ih => simp [beginnings, ih]

end Path

end MarkupLog
