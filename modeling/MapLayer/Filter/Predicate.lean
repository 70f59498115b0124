import MapLayer.Filter.Distance
import MapLayer.Geometry.Wkt
import MapLayer.Text.Upper

/-! The spatial predicates inside filters, for one geometry column. -/

namespace MapLayer

/-- What one entry of a filter asks of a geometry column. -/
inductive SpatialPredicate
  | shape (relation : String) (geometry : Geometry)
  | distance (geometry : Geometry) (number : String) (units : Distance.Units)
  | other

namespace SpatialPredicate

def missingShape (column : String) : Failure :=
  .invalidParameter column "spatial predicate has no shape"

def shapeOf (column : String) (spec : Json) : Outcome Geometry :=
  match spec.get? "shape" with
  | some v => Geometry.ofJson v
  | none => .error (missingShape column)

def relationOf (spec : Json) : String :=
  String.ofList (Text.upper (((spec.get? "relation").bind Json.string?).getD "INTERSECTS").toList)

/-- The centre of a distance: a pair of coordinates, or a shape. -/
def centreOf (column : String) : Json → Outcome Geometry
  | .array [x, y] => Geometry.ofPair [x, y]
  | v => shapeOf column v

/-- The predicate of one entry. An entry about other columns is no predicate. -/
def classify (statement : Json) (column : String) : Outcome SpatialPredicate :=
  match (statement.get? "geo_shape").bind (·.get? column) with
  | some spec => do return shape (relationOf spec) (← shapeOf column spec)
  | none => match statement.get? "geo_distance" with
    | none => .ok other
    | some spec => match spec.get? column with
      | none => .ok other
      | some target => do
        let centre ← centreOf column target
        let (number, units) ← Distance.parse (((spec.get? "distance").bind Json.string?).getD "")
        return distance centre number units

def cql? (column : String) : SpatialPredicate → Option String
  | shape relation g => some s!"{relation}({column}, {g.wkt})"
  | distance g number units => some s!"DWITHIN({column}, {g.wkt},{number},{units.name})"
  | other => none

end SpatialPredicate

end MapLayer
