import MapLayer.Failure
import MapLayer.Json.Decode

/-! Geometries and their GeoJSON form. Vertices are kept as they are, of any length. -/

namespace MapLayer

abbrev Position := List Float

inductive Geometry
  | point (vertex : Position)
  | lineString (vertices : List Position)
  | polygon (rings : List (List Position))
  | multiPoint (vertices : List Position)
  | multiLineString (lines : List (List Position))
  | multiPolygon (polygons : List (List (List Position)))
  | collection (members : List Geometry)
  | feature (geometry : Geometry)

inductive GeometryKind
  | point
  | lineString
  | polygon
  | multiPoint
  | multiLineString
  | multiPolygon
  | collection
  | feature
deriving DecidableEq, Repr

namespace GeometryKind

def name : GeometryKind → String
  | point => "Point"
  | lineString => "LineString"
  | polygon => "Polygon"
  | multiPoint => "MultiPoint"
  | multiLineString => "MultiLineString"
  | multiPolygon => "MultiPolygon"
  | collection => "GeometryCollection"
  | feature => "Feature"

def all : List GeometryKind :=
  [point, lineString, polygon, multiPoint, multiLineString, multiPolygon, collection, feature]

def ofName? (name : String) : Option GeometryKind :=
  all.find? (·.name == name)

end GeometryKind

namespace Geometry

def kind : Geometry → GeometryKind
  | point _ => .point
  | lineString _ => .lineString
  | polygon _ => .polygon
  | multiPoint _ => .multiPoint
  | multiLineString _ => .multiLineString
  | multiPolygon _ => .multiPolygon
  | collection _ => .collection
  | feature _ => .feature

/-- The geometry below all feature wrappers. -/
def bare : Geometry → Geometry
  | feature g => g.bare
  | g => g

/-- The value of a type tag. Anything but a text counts as no tag. -/
def tagOf (members : List (String × Json)) : String :=
  ((members.lookup "type").bind Json.string?).getD "<missing>"

def decodePosition : Json → Json.Decoded Position :=
  Json.decodeList Json.decodeFloat

def ofCoordinates (kind : GeometryKind) (v : Json) : Json.Decoded Geometry :=
  match kind with
  | .point => point <$> decodePosition v
  | .lineString => lineString <$> Json.decodeList decodePosition v
  | .multiPoint => multiPoint <$> Json.decodeList decodePosition v
  | .polygon => polygon <$> Json.decodeList (Json.decodeList decodePosition) v
  | .multiLineString => multiLineString <$> Json.decodeList (Json.decodeList decodePosition) v
  | .multiPolygon =>
    multiPolygon <$> Json.decodeList (Json.decodeList (Json.decodeList decodePosition)) v
  | .collection | .feature => .error (.unknownVariant kind.name)

def ofLeaf (kind : GeometryKind) (members : List (String × Json)) : Outcome Geometry :=
  match Json.Fields.required members "coordinates" (ofCoordinates kind) with
  | .ok g => .ok g
  | .error m => .error (.invalidParameter "geometry" s!"{kind.name} coordinates: {m.message}")

mutual

/-- The geometry of a GeoJSON value. A kind that is not understood is reported by name, also inside
collections and features; a feature without geometry has no kind. -/
def ofJson : Json → Outcome Geometry
  | .object members =>
    match GeometryKind.ofName? (tagOf members) with
    | none => .error (.unsupportedGeometry (tagOf members))
    | some .feature => feature <$> ofFeature members
    | some .collection => collection <$> ofCollection members
    | some kind => ofLeaf kind members
  | _ => .error (.unsupportedGeometry "<missing>")

def ofFeature : List (String × Json) → Outcome Geometry
  | [] => .error (.unsupportedGeometry "<missing>")
  | (name, v) :: rest => if name = "geometry" then ofJson v else ofFeature rest

/-- The geometries among the members of a collection. Anything but a list counts as empty. -/
def ofCollection : List (String × Json) → Outcome (List Geometry)
  | [] => .ok []
  | (name, .array items) :: rest =>
    if name = "geometries" then ofItems items else ofCollection rest
  | (name, _) :: rest => if name = "geometries" then .ok [] else ofCollection rest

def ofItems : List Json → Outcome (List Geometry)
  | [] => .ok []
  | v :: vs => do
    let g ← ofJson v
    return g :: (← ofItems vs)

end

/-- The point with these coordinates, as read from a pair of values. -/
def ofPair (coordinates : List Json) : Outcome Geometry :=
  ofLeaf .point [("coordinates", .array coordinates)]

def positionJson (p : Position) : Json := .array (p.map Json.ofFloat)

def positionsJson (ps : List Position) : Json := .array (ps.map positionJson)

def ringsJson (rings : List (List Position)) : Json := .array (rings.map positionsJson)

/-- An object of one member and the type tag. -/
def tagged (kind : GeometryKind) (name : String) (v : Json) : Json :=
  .object [(name, v), ("type", .string kind.name)]

mutual

def toJson : Geometry → Json
  | point p => tagged .point "coordinates" (positionJson p)
  | lineString ps => tagged .lineString "coordinates" (positionsJson ps)
  | polygon rs => tagged .polygon "coordinates" (ringsJson rs)
  | multiPoint ps => tagged .multiPoint "coordinates" (positionsJson ps)
  | multiLineString ls => tagged .multiLineString "coordinates" (ringsJson ls)
  | multiPolygon gs => tagged .multiPolygon "coordinates" (.array (gs.map ringsJson))
  | collection members => tagged .collection "geometries" (.array (membersJson members))
  | feature g => tagged .feature "geometry" g.toJson

def membersJson : List Geometry → List Json
  | [] => []
  | g :: gs => g.toJson :: membersJson gs

end

end Geometry

end MapLayer
