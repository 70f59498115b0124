import MapLayer.Text.Split
import MapLayer.Url.Percent

/-! Pairs of names and values in a query. -/

namespace MapLayer.Url.Form

open MapLayer.Text

def isPlain (c : Char) : Bool :=
  c.isAlphanum || c == '*' || c == '-' || c == '.' || c == '_'

def encodeChar (c : Char) : List Char :=
  if isPlain c then [c]
  else if c = ' ' then ['+']
  else (Utf8.encodeChar c).flatMap encodeByte

/-- A name or a value. A space is a plus sign. -/
def encode (s : List Char) : List Char := s.flatMap encodeChar

def decode (s : List Char) : List Char :=
  Utf8.decode (percentDecode (s.map fun c => if c = '+' then ' ' else c))

def encodePair (pair : String × String) : List Char :=
  encode pair.1.toList ++ '=' :: encode pair.2.toList

/-- A query with a pair at its end. A query that is not empty is followed by a separator first. -/
def append (query : List Char) (pair : String × String) : List Char :=
  (if query = [] then [] else query ++ ['&']) ++ encodePair pair

def appendAll (query : List Char) (pairs : List (String × String)) : List Char :=
  pairs.foldl append query

/-- The pair of one piece of a query. Without an equals sign the value is empty. -/
def decodePair (piece : List Char) : String × String :=
  match cut? ['='] piece with
  | some (name, value) => (String.ofList (decode name), String.ofList (decode value))
  | none => (String.ofList (decode piece), "")

/-- The pairs of a query. Empty pieces are none. -/
def pairs (query : List Char) : List (String × String) :=
  ((pieces '&' query).filter (· ≠ [])).map decodePair

end MapLayer.Url.Form
