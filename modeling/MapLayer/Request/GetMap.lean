import MapLayer.BoundingBox
import MapLayer.Url.Basic

/-! Requests for tiles. -/

namespace MapLayer

structure GetMap where
  layer : String
  cqlFilter : Option String := none
  sldBody : Option String := none
deriving DecidableEq, Repr

namespace GetMap

def tileSize : Nat := 256

/-- What stands for the extent of a tile. -/
def placeholder : String := "\x7bbbox-epsg-3857\x7d"

def sentStyle : String := "style_sld_body"

def nonempty (s : Option String) : Option String := s.filter (· ≠ "")

def params (r : GetMap) : List (String × String) :=
  [("format", "image/png"), ("service", "WMS"), ("version", "1.1.1"), ("request", "GetMap"),
    ("srs", "EPSG:3857"), ("transparent", "true"), ("width", toString tileSize),
    ("height", toString tileSize), ("layers", r.layer)]
  ++ (match r.sldBody with
    | some sld => [("style", sentStyle), ("sld_body", sld)]
    | none => [])
  ++ match nonempty r.cqlFilter with
    | some cql => [("cql_filter", cql)]
    | none => []

/-- The address of tiles, with the placeholder for the extent as it is. -/
def template (r : GetMap) (base : String) : Outcome String := do
  return (← buildUrl base r.params).text ++ "&bbox=" ++ placeholder

end GetMap

def fillTemplate (template : String) (b : BoundingBox) : String :=
  String.ofList (Text.replace GetMap.placeholder.toList b.text.toList template.toList)

end MapLayer
