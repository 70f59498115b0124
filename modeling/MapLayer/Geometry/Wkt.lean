import MapLayer.Geometry.Basic
import MapLayer.Text.Split

/-! Well-known text. The first vertex alone decides whether a geometry is written with heights. -/

namespace MapLayer.Geometry.Wkt

/-- Zero is written without a sign. -/
def number (x : Float) : List Char :=
  if x == 0.0 then ['0'] else Decimal.plain x

def vertex (p : Position) : List Char :=
  Text.join [' '] (p.map number)

def vertices (ps : List Position) : List Char :=
  Text.join [',', ' '] (ps.map vertex)

def enclosed (body : List Char) : List Char :=
  '(' :: (body ++ [')'])

def rings (rs : List (List Position)) : List Char :=
  Text.join [',', ' '] (rs.map fun r => enclosed (vertices r))

def polygons (gs : List (List (List Position))) : List Char :=
  Text.join [',', ' '] (gs.map fun g => enclosed (rings g))

def hasHeight : Option Position → Bool
  | some p => p.length == 3
  | none => false

/-- A keyword, its mark for heights and the body in parentheses. -/
def tagged (keyword : String) (first : Option Position) (body : List Char) : List Char :=
  keyword.toList ++ (if hasHeight first then [' ', 'Z', ' '] else [' ']) ++ enclosed body

mutual

def text : Geometry → List Char
  | .point p => tagged "POINT" (some p) (vertex p)
  | .lineString ps => tagged "LINESTRING" ps.head? (vertices ps)
  | .multiPoint ps => tagged "MULTIPOINT" ps.head? (vertices ps)
  | .polygon rs => tagged "POLYGON" (rs.head?.bind List.head?) (rings rs)
  | .multiLineString rs => tagged "MULTILINESTRING" (rs.head?.bind List.head?) (rings rs)
  | .multiPolygon gs =>
    tagged "MULTIPOLYGON" ((gs.head?.bind List.head?).bind List.head?) (polygons gs)
  | .collection members => tagged "GEOMETRYCOLLECTION" none (Text.join [',', ' '] (texts members))
  | .feature g => text g

def texts : List Geometry → List (List Char)
  | [] => []
  | g :: gs => text g :: texts gs

end

end MapLayer.Geometry.Wkt

namespace MapLayer.Geometry

/-- The well-known text. A feature is written as its geometry. -/
def wkt (g : Geometry) : String := String.ofList (Wkt.text g)

def wktOfJson (v : Json) : Outcome String := wkt <$> ofJson v

end MapLayer.Geometry
