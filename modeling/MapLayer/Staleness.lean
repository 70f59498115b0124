import MapLayer.Context
import MapLayer.Descriptor
import MapLayer.TileUrl

/-! When the tiles on a map have to be requested again. -/

namespace MapLayer

structure StaleCheck where
  stale : Bool
  /-- The filter of the present address, if addresses were compared and there is one. -/
  cql : Option String := none
  /-- Whether the cached tiles of the source are dropped. -/
  reloads : Bool := false
deriving DecidableEq, Repr

namespace MapContext

variable {η : Type}

/-- Whether a live source refreshed last at some moment may be refreshed now. -/
def isDue (policy : RefreshPolicy) (last now : Int) : Bool :=
  policy.refreshInterval ≤ (now - last).toNat

/-- A live source is refreshed when its tiles are loaded and the interval has passed. The first
time nothing is cached yet. -/
def checkLive (c : MapContext η) (id : String) (loaded : Bool) (now : Int) :
    MapContext η × StaleCheck :=
  let c := c.armNudge.1
  if !loaded then (c, { stale := false })
  else match c.lastRefresh? id with
    | none => (c.recordRefresh id now, { stale := true })
    | some last =>
      if isDue c.policy last now then (c.recordRefresh id now, { stale := true, reloads := true })
      else (c, { stale := false })

/-- Any other source is stale when the parameters of its address have changed. -/
def compareUrls (previous : Option String) (current : String) : Outcome StaleCheck :=
  match previous with
  | none => .ok { stale := false }
  | some previous => do
    let now ← queryParams current
    let before ← queryParams previous
    return {
      stale := now != before
      cql := GetMap.nonempty (now.get? "cql_filter") }

def check (c : MapContext η) (id : String) (d : Descriptor) (previous : Option String)
    (current : String) (loaded : Bool) (now : Int) : MapContext η × Outcome StaleCheck :=
  if d.nrt then
    let (c, verdict) := c.checkLive id loaded now
    (c, .ok verdict)
  else (c, compareUrls previous current)

end MapContext

end MapLayer
