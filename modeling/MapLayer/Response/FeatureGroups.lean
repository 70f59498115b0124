import MapLayer.Json.Decode
import MapLayer.Text.Blank
import MapLayer.Text.Letter
import MapLayer.Text.Split

/-! The attributes of features as a service lists them: a line for each, and other lines between
features. -/

namespace MapLayer

structure KeyPair where
  key : String
  value : String
deriving DecidableEq, Repr

abbrev FeatureGroup := List KeyPair

namespace KeyPair

def decode (v : Json) : Json.Decoded KeyPair := do
  let fields ← Json.decodeFields "a pair" ["key", "value"] v
  return {
    key := ← fields.required "key" Json.decodeString
    value := ← fields.required "value" Json.decodeString }

def toJson (p : KeyPair) : Json :=
  .ofMembers [("key", .string p.key), ("value", .string p.value)]

end KeyPair

namespace FeatureGroup

open MapLayer.Text

/-- The text between two of the same mark. -/
def between? (mark : Char) (s : List Char) : Option (List Char) :=
  match s with
  | c :: d :: r => if c = mark ∧ (d :: r).getLast? = some mark then some (d :: r).dropLast else none
  | _ => none

/-- A value without the quotes around it, single ones first. -/
def unquote (s : List Char) : List Char :=
  ((between? '\'' s).or (between? '"' s)).getD s

/-- The first word before an equals sign, and the value behind the sign. -/
def pair? (line : List Char) : Option KeyPair :=
  match _h : line.dropWhile (!isWord ·) with
  | [] => none
  | c :: r =>
    match trimLeft isBlank (r.dropWhile isWord) with
    | '=' :: value =>
      some ⟨String.ofList (c :: r.takeWhile isWord), String.ofList (unquote (trim value))⟩
    | _ => pair? (r.dropWhile isWord)
termination_by line.length
decreasing_by
  have a := (List.dropWhile_sublist (!isWord ·) (l := line)).length_le
  have b := (List.dropWhile_sublist isWord (l := r)).length_le
  rw [_h, List.length_cons] at a
  omega

/-- The groups of lines, given the attributes of the feature that is open. A line without an equals
sign closes it. -/
def fromLines (current : FeatureGroup) : List (List Char) → List FeatureGroup
  | [] => if current = [] then [] else [current]
  | line :: rest =>
    if line.contains '=' then fromLines (current ++ (pair? line).toList) rest
    else if current = [] then fromLines [] rest
    else current :: fromLines [] rest

def parseAll (text : String) : List FeatureGroup :=
  fromLines [] (lines text.toList)

end FeatureGroup

end MapLayer
