import MapLayer.Json.Decode
import MapLayer.Text.Split

/-! One clause of a filter, in parentheses, and the filter that clauses make together. -/

namespace MapLayer

structure CqlFragment where
  cql : String
  isSpatial : Bool
  isNegated : Bool
  fieldKey : String
deriving DecidableEq, Repr

namespace CqlFragment

def spatial (cql fieldKey : String) (isNegated : Bool) : CqlFragment :=
  ⟨cql, true, isNegated, fieldKey⟩

def plain (cql : String) : CqlFragment :=
  ⟨cql, false, false, ""⟩

def isTimeRange (f : CqlFragment) : Bool :=
  !f.isSpatial && Text.occursIn " BETWEEN ".toList f.cql.toList

/-- The filter that keeps what every clause keeps. Without clauses there is none. -/
def join : List CqlFragment → Option String
  | [] => none
  | fragments => some (" AND ".intercalate (fragments.map (·.cql)))

def decode (v : Json) : Json.Decoded CqlFragment := do
  let fields ← Json.decodeFields "a clause"
    ["cql", "isSpatial", "isNegated", "fieldKey"] v
  return {
    cql := ← fields.required "cql" Json.decodeString
    isSpatial := ← fields.required "isSpatial" Json.decodeBool
    isNegated := ← fields.required "isNegated" Json.decodeBool
    fieldKey := ← fields.required "fieldKey" Json.decodeString }

end CqlFragment

end MapLayer
