import MapLayer.Decimal.Layout
import MapLayer.Text.Split

/-! Bounding boxes and the viewport of a rotated map. -/

namespace MapLayer

/-- A rectangle, in degrees or metres. -/
structure BoundingBox where
  minX : Float
  minY : Float
  maxX : Float
  maxY : Float
deriving DecidableEq

namespace BoundingBox

def largest : Float := 1.7976931348623157e308

/-- The smaller of two numbers, the first of equal ones; what is not a number does not count. -/
def lesser (a b : Float) : Float :=
  if a.isNaN then b else if b < a then b else a

def greater (a b : Float) : Float :=
  if a.isNaN then b else if a < b then b else a

def extend (b : BoundingBox) (x y : Float) : BoundingBox :=
  ⟨lesser b.minX x, lesser b.minY y, greater b.maxX x, greater b.maxY y⟩

/-- The box grown by the points of a flat list; an odd number at its end does not count. -/
def extendAll (b : BoundingBox) : List Float → BoundingBox
  | x :: y :: rest => (b.extend x y).extendAll rest
  | _ => b

def enclosing? : List Float → Option BoundingBox
  | x :: y :: rest => some (extendAll ⟨largest, largest, -largest, -largest⟩ (x :: y :: rest))
  | _ => none

def numbers (xs : List Float) : String :=
  String.ofList (Text.join [','] (xs.map Decimal.plain))

def text (b : BoundingBox) : String :=
  numbers [b.minX, b.minY, b.maxX, b.maxY]

def latitudeFirst (b : BoundingBox) : String :=
  numbers [b.minY, b.minX, b.maxY, b.maxX]

end BoundingBox

/-- The corners of a viewport and its first corner again, as a flat list. The rotation is given by
its sine and cosine. -/
def viewportRing (x y resolution sin cos width height : Float) : List Float :=
  let dx := resolution * width / 2.0
  let dy := resolution * height / 2.0
  let xCos := dx * cos
  let xSin := dx * sin
  let yCos := dy * cos
  let ySin := dy * sin
  [x - xCos + ySin, y - xSin - yCos,
    x - xCos - ySin, y - xSin + yCos,
    x + xCos - ySin, y + xSin + yCos,
    x + xCos + ySin, y + xSin - yCos,
    x - xCos + ySin, y - xSin - yCos]

def rotatedViewport (x y resolution rotation width height : Float) : List Float :=
  viewportRing x y resolution rotation.sin rotation.cos width height

end MapLayer
