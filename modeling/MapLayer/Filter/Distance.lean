import MapLayer.Failure
import MapLayer.Text.Letter

/-! Distances such as `320km`: a number and the unit behind it. -/

namespace MapLayer.Distance

open MapLayer.Text

inductive Units
  | kilometers
  | meters
deriving DecidableEq, Repr

def Units.name : Units → String
  | kilometers => "kilometers"
  | meters => "meters"

def isNumeric (c : Char) : Bool := isDecimal c || c == '.'

/-- A number cut before its last digit that is not its first character, and that digit. -/
def giveBack? : List Char → Option (List Char × List Char)
  | [] => none
  | c :: s => match giveBack? s with
    | some (number, unit) => some (c :: number, unit)
    | none => match s with
      | d :: _ => if isDecimal d then some ([c], [d]) else none
      | [] => none

/-- The first number that something to be read as a unit follows. A number without unit gives back
its last digit as the unit. -/
def find? (s : List Char) : Option (List Char × List Char) :=
  match _h : s.dropWhile (!isNumeric ·) with
  | [] => none
  | c :: r =>
    let number := c :: r.takeWhile isNumeric
    let rest := r.dropWhile isNumeric
    match rest.takeWhile isWord with
    | [] => match giveBack? number with
      | some found => some found
      | none => find? rest
    | unit => some (number, unit)
termination_by s.length
decreasing_by
  have a := (List.dropWhile_sublist (!isNumeric ·) (l := s)).length_le
  have b := (List.dropWhile_sublist isNumeric (l := r)).length_le
  rw [_h, List.length_cons] at a
  omega

/-- The number and the units of a distance. Every unit but `km` counts as metres. -/
def parse (raw : String) : Outcome (String × Units) :=
  match find? raw.toList with
  | some (number, unit) =>
    .ok (String.ofList number, if unit = ['k', 'm'] then .kilometers else .meters)
  | none => .error (.invalidParameter "distance" ("cannot parse '" ++ raw ++ "'"))

end MapLayer.Distance
