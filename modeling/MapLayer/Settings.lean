/-! How often live layers are refreshed, and how services are called. Times are in milliseconds. -/

namespace MapLayer

structure RefreshPolicy where
  /-- The least time between two refreshes of one layer. -/
  refreshInterval : Nat := 10000
  /-- How long after a check the map is nudged, so that it checks again. -/
  nudgeDelay : Nat := 10000
deriving DecidableEq, Repr

structure ClientSettings where
  requestTimeout : Nat := 30000
  connectTimeout : Nat := 10000
  userAgent : String := "wms-layer/0.1.0"
deriving DecidableEq, Repr

end MapLayer
