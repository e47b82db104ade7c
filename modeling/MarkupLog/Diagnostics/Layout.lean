import MarkupLog.Diagnostics.Record
import MarkupLog.Diagnostics.Level
import MarkupLog.Template.Filling

/-!
# Layouts of diagnostics

A layout says how a record is written: literal text with directives that name a field of the record
between parentheses and then, like any directive of a template, how to convert it.
-/

namespace MarkupLog

/-- The record of a message, if its template takes exactly its arguments. Without arguments the
template stands for itself. -/
def Record.ofMessage (level : Int) (logger template : String) (args : List Value) :
    Except Template.Fault Record :=
  if args.isEmpty then .ok ⟨level, logger, template⟩
  else (Template.fill template args).map fun message => ⟨level, logger, message⟩

/-- What stands for the place in the source text that noted a record. -/
def linePlace : String := "<line>"

/-- The value of a field of a record; unknown fields are empty. -/
def Record.field (r : Record) (name : String) : Value :=
  match name with
  | "levelname" => .str (Level.name r.level)
  | "levelno" => .int r.level
  | "name" => .str r.logger
  | "lineno" => .str linePlace
  | "message" => .str r.message
  | _ => .str ""

namespace Layout

open Template (Directive)

inductive Piece
  | literal (c : Char)
  | field (name : String) (d : Directive)
  deriving Repr, DecidableEq

theorem length_dropWhile_drop_le (p : Char → Bool) (cs : List Char) :
    ((cs.dropWhile p).drop 1).length ≤ cs.length := by
  have h := (List.dropWhile_sublist p (l := cs)).length_le
  simp only [List.length_drop]
  omega

def pieces (cs : List Char) : List Piece :=
  match cs with
  | [] => []
  | '%' :: '%' :: rest => .literal '%' :: pieces rest
  | '%' :: '(' :: rest =>
    let key := rest.takeWhile (· ≠ ')')
    let behind := (rest.dropWhile (· ≠ ')')).drop 1
    let d := Template.readDirective (fun _ => 0) behind
    .field (String.ofList key) d.1 :: pieces d.2
  | c :: rest => .literal c :: pieces rest
termination_by cs.length
decreasing_by
  · simp only [List.length_cons]; omega
  · exact Nat.lt_of_le_of_lt
      (Nat.le_trans (Template.length_readDirective_le _ _) (length_dropWhile_drop_le _ rest))
      (by simp only [List.length_cons]; omega)
  · simp only [List.length_cons]; omega

def pieceText (r : Record) : Piece → Except Template.Fault (List Char)
  | .literal c => .ok [c]
  | .field name d => (d.fill [r.field name]).map Prod.fst

def write (layout : String) (r : Record) : Except Template.Fault String :=
  ((pieces layout.toList).mapM (pieceText r)).map fun texts => String.ofList texts.flatten

end Layout

end MarkupLog
