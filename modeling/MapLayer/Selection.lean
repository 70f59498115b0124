import MapLayer.Filter.Basic
import MapLayer.TimeWindow

/-! What the user of a map has chosen to see. -/

namespace MapLayer

/-- The filters, the free-text query and the times that a map is limited to. -/
structure Selection where
  filters : List FilterDescriptor := []
  query : Option SourceQuery := none
  timeslice : Option Timeslice := none
  timeRange : Option TimeRange := none

namespace Selection

def shape : Json.Shape :=
  .record [("filters", .list FilterDescriptor.shape), ("sourceQuery", SourceQuery.shape),
    ("timeslice", Timeslice.shape), ("timeFilters", TimeRange.shape)]

def decode (v : Json) : Json.Decoded Selection := do
  let fields ← Json.decodeFields "a selection"
    ["filters", "sourceQuery", "timeslice", "timeFilters"] v
  return {
    filters := ← fields.orElse "filters" [] (Json.decodeList FilterDescriptor.decode)
    query := ← fields.optional "sourceQuery" SourceQuery.decode
    timeslice := ← fields.optional "timeslice" Timeslice.decode
    timeRange := ← fields.optional "timeFilters" TimeRange.decode }

def toJson (s : Selection) : Json :=
  .ofMembers [("filters", .array (s.filters.map FilterDescriptor.toJson)),
    ("sourceQuery", .ofOption SourceQuery.toJson s.query),
    ("timeslice", .ofOption Timeslice.toJson s.timeslice),
    ("timeFilters", .ofOption TimeRange.toJson s.timeRange)]

end Selection

end MapLayer
