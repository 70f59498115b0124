import MapLayer.Json.Decode
import MapLayer.Json.Shape

/-! The columns of a layer, as its feature service describes them. -/

namespace MapLayer

structure Column where
  name : String
  localType : String := ""
  columnType : String := ""
  nillable : Bool := false
  minOccurs : UInt32 := 0
  maxOccurs : UInt32 := 1
deriving DecidableEq, Repr

namespace Column

def timeTypes : List String := ["date", "dateTime", "date-time"]

def geometryTypes : List String :=
  ["PointPropertyType", "MultiCurvePropertyType", "MultiSurfacePropertyType", "MultiPolygon",
    "Point", "MultiLineString", "Geometry", "Polygon", "LineString", "MultiPoint"]

def pointTypes : List String := ["PointPropertyType", "Point", "MultiPoint"]

def polygonTypes : List String :=
  ["MultiCurvePropertyType", "MultiSurfacePropertyType", "MultiPolygon", "Geometry", "Polygon"]

def isTime (c : Column) : Bool := timeTypes.contains c.localType
def isGeometry (c : Column) : Bool := geometryTypes.contains c.localType
def isPoint (c : Column) : Bool := pointTypes.contains c.localType
def isPolygon (c : Column) : Bool := polygonTypes.contains c.localType

def names : List String :=
  ["name", "localType", "type", "nillable", "minOccurs", "maxOccurs"]

def shape : Json.Shape := .plain names

def decode (v : Json) : Json.Decoded Column := do
  let fields ← Json.decodeFields "a column" names v
  return {
    name := ← fields.required "name" Json.decodeString
    localType := ← fields.orElse "localType" "" Json.decodeString
    columnType := ← fields.orElse "type" "" Json.decodeString
    nillable := ← fields.orElse "nillable" false Json.decodeBool
    minOccurs := ← fields.orElse "minOccurs" 0 Json.decodeCount
    maxOccurs := ← fields.orElse "maxOccurs" 1 Json.decodeCount }

def toJson (c : Column) : Json :=
  .ofMembers [("name", .string c.name), ("localType", .string c.localType),
    ("type", .string c.columnType), ("nillable", .bool c.nillable),
    ("minOccurs", .int c.minOccurs.toNat), ("maxOccurs", .int c.maxOccurs.toNat)]

def timeNames (columns : List Column) : List String :=
  (columns.filter isTime).map name

def geometryNames (columns : List Column) : List String :=
  (columns.filter isGeometry).map name

end Column

end MapLayer
