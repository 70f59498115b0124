import MapLayer.Cql.Fragment
import MapLayer.Text.Blank

/-! Taking a filter apart into its clauses, each a balanced run of parentheses. -/

namespace MapLayer.Cql

open MapLayer.Text

def spatialPredicates : List String :=
  ["BBOX", "INTERSECTS", "DWITHIN", "WITHIN", "CONTAINS"]

/-- The runs that close in a text, given the number of open parentheses and what has been read of
the open run, backwards. A closing parenthesis too many is passed over. -/
def runsFrom (depth : Nat) (taken : List Char) : List Char → List (List Char)
  | [] => []
  | c :: s =>
    if c = '(' then runsFrom (depth + 1) (c :: taken) s
    else match depth with
      | 0 => runsFrom 0 [] s
      | d + 1 =>
        if c = ')' then
          match d with
          | 0 => (c :: taken).reverse :: runsFrom 0 [] s
          | e + 1 => runsFrom (e + 1) (c :: taken) s
        else runsFrom (d + 1) (c :: taken) s

/-- The outermost balanced runs of a text, from left to right. -/
def runs (s : List Char) : List (List Char) :=
  runsFrom 0 [] s

/-- What a run holds between its own parentheses. -/
def body (run : List Char) : List Char :=
  trim (run.tail.dropLast)

/-- The text after the word `not`, which white space or a parenthesis has to follow. -/
def afterNot? : List Char → Option (List Char)
  | n :: o :: t :: c :: s =>
    if n.toLower = 'n' ∧ o.toLower = 'o' ∧ t.toLower = 't' ∧ (isBlank c || c == '(') then
      some (trimLeft isBlank (c :: s))
    else none
  | _ => none

/-- Whether a character is a spelling of a capital letter. The long s is one of S. -/
def spells (capital c : Char) : Bool :=
  c.toUpper == capital || capital == 'S' && c == Char.ofNat 0x17F

/-- The text after a word in any letter case. -/
def afterName? : (name s : List Char) → Option (List Char)
  | [], s => some s
  | _ :: _, [] => none
  | n :: name, c :: s => if spells n c then afterName? name s else none

def afterPredicate? (name s : List Char) : Option (List Char) :=
  match (afterName? name s).map (trimLeft isBlank) with
  | some ('(' :: r) => some r
  | _ => none

def spatialArguments? (s : List Char) : Option (List Char) :=
  spatialPredicates.findSome? fun name => afterPredicate? name.toList s

def classify (run : List Char) : CqlFragment :=
  let inner := body run
  let (isNegated, positive) := match afterNot? inner with
    | some rest => (true, rest)
    | none => (false, inner)
  match spatialArguments? positive with
  | some arguments =>
    .spatial (String.ofList run) (String.ofList (trim (arguments.takeWhile (· != ',')))) isNegated
  | none => ⟨String.ofList run, false, isNegated, ""⟩

/-- The clauses of a filter. What stands between them is dropped, and so is a run left open. -/
def split (filter : String) : List CqlFragment :=
  (runs filter.toList).map classify

end MapLayer.Cql
