import MapLayer.Text.Blank
import MapLayer.Text.Split

/-! Label templates: text with the names of columns in double braces. -/

namespace MapLayer

inductive LabelPiece
  | text (s : List Char)
  /-- The name between the braces, as it is written. -/
  | column (name : List Char)
deriving DecidableEq

namespace LabelPiece

open MapLayer.Text

def textOf (s : List Char) : List LabelPiece :=
  if s = [] then [] else [text s]

/-- The parts of a template, from left to right. Braces that are not closed are text. -/
def pieces (s : List Char) : List LabelPiece :=
  match _h : cut? ['{', '{'] s with
  | none => textOf s
  | some (before, after) => match _h' : cut? ['}', '}'] after with
    | none => textOf s
    | some (name, rest) => textOf before ++ column name :: pieces rest
termination_by s.length
decreasing_by
  have := length_of_cut? _h
  have := length_of_cut? _h'
  simp only [List.length_cons, List.length_nil] at *
  omega

/-- Whether a label is a template. Any other label names a column. -/
def isTemplate (s : List Char) : Bool := occursIn ['{', '{'] s

end LabelPiece

end MapLayer
