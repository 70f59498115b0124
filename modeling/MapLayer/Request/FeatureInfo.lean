import MapLayer.Request.GetMap

/-! Requests for the features at a click. -/

namespace MapLayer

/-- A question about the features of a layer at the centre of a small map. -/
structure FeatureInfo where
  layer : String
  bbox : BoundingBox
  cqlFilter : Option String := none

namespace FeatureInfo

def mapSize : Nat := 101

def clickPixel : Nat := 50

/-- How far from the click features are looked for, in pixels. -/
def radius : Nat := 10

/-- The question about features that a filter keeps. An empty filter is none. -/
def withFilter (r : FeatureInfo) (cql : Option String) : FeatureInfo :=
  { r with cqlFilter := GetMap.nonempty cql }

def params (r : FeatureInfo) : List (String × String) :=
  [("format", "image/png"), ("service", "WMS"), ("version", "1.3.0"),
    ("request", "GetFeatureInfo"), ("crs", "EPSG:4326"), ("transparent", "true"),
    ("width", toString mapSize), ("height", toString mapSize), ("info_format", "text/plain"),
    ("i", toString clickPixel), ("j", toString clickPixel), ("radius", toString radius),
    ("buffer", toString radius), ("layers", r.layer), ("query_layers", r.layer),
    ("bbox", r.bbox.latitudeFirst)]
  ++ match r.cqlFilter with
    | some cql => [("cql_filter", cql)]
    | none => []

def url (r : FeatureInfo) (base : String) : Outcome String := do
  return (← buildUrl base r.params).text

end FeatureInfo

/-- The extent of the small map around a click, given the degrees of one pixel. -/
def clickBox (lng lat resolution : Float) : BoundingBox :=
  let size := 101.0
  (BoundingBox.enclosing? (viewportRing lng lat resolution.abs 0.0 1.0 size size)).getD
    ⟨lng, lat, lng, lat⟩

end MapLayer
