/-! The map that shows layers, as far as the layers look at it. -/

namespace MapLayer

inductive Presence
  /-- It is not on the map. -/
  | absent
  /-- It is on the map, but no layer draws from it. -/
  | orphaned
  | hidden
  | visible
deriving DecidableEq, Repr, Inhabited

structure HostMap where
  presence : String → Presence
  isDrawing : Bool
  /-- The place on the earth of a point on the screen. -/
  unproject : Float → Float → Float × Float

/-- A click at a place on the earth and a point on the screen. -/
structure Click where
  lng : Float
  lat : Float
  x : Float
  y : Float

/-- The degrees of longitude that one pixel covers at a click. -/
def Click.resolution (c : Click) (map : HostMap) : Float :=
  (c.lng - (map.unproject (c.x - 1.0) c.y).1).abs

end MapLayer
