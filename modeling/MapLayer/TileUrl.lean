import MapLayer.Cql.Split
import MapLayer.Descriptor
import MapLayer.Filter.Cql
import MapLayer.Request.GetMap
import MapLayer.Selection
import MapLayer.Sld.Document

/-!
The address of a layer's tiles under a selection, and whether one address serves another selection
as well.
-/

namespace MapLayer

def queryFragment (query : Option SourceQuery) : Outcome (Option CqlFragment) :=
  match query with
  | some q => q.fragment
  | none => .ok none

/-- The clauses of a selection: the shapes, then the time window, then the query. -/
def tileFragments (d : Descriptor) (s : Selection) (now : Instant) :
    Outcome (List CqlFragment) := do
  let shapes ← spatialFragments d.geoColumn s.filters
  let (start, stop) := timeWindow s.timeslice s.timeRange now
  let query ← queryFragment s.query
  return shapes ++ (timeFragment d.timeColumn start stop).toList ++ query.toList

/-- The address of the tiles of a layer, with a placeholder for the extent. -/
def tileUrl (d : Descriptor) (s : Selection) (now : Instant) : Outcome String := do
  let fragments ← tileFragments d s now
  let request : GetMap := {
    layer := d.layer
    cqlFilter := CqlFragment.join fragments
    sldBody := d.style.map (Sld.write d.layer) }
  request.template d.baseUrl

/-- The filter that an address asks for. -/
def filterOf (url : String) : Outcome (Option String) := do
  return (← queryParams url).get? "cql_filter"

def fragmentsOf (url : Option String) : Outcome (List CqlFragment) :=
  match url with
  | some url => do return ((← filterOf url).map Cql.split).getD []
  | none => .ok []

/-- Whether a query differs from the one before. A query taken away does not count. -/
def queryChanged : (before after : Option SourceQuery) → Bool
  | none, some _ => true
  | some p, some q => p != q
  | _, none => false

/-- Whether the shapes of two lists of clauses have the same text. -/
def sameShapes (before after : List CqlFragment) : Bool :=
  (before.filter (·.isSpatial)).map (·.cql) == after.map (·.cql)

/-- Whether the tiles of the selection before serve the next one. The clauses are those of the
address before. -/
def canReuse (d : Descriptor) (before : Option Selection) (next : Selection)
    (fragments : List CqlFragment) : Outcome Bool :=
  match before with
  | none => .ok false
  | some before =>
    if queryChanged before.query next.query || d.nrt then .ok false
    else if d.isTimeAware
        && (before.timeslice != next.timeslice || before.timeRange != next.timeRange) then
      .ok false
    else do
      let shapes ← spatialFragments d.geoColumn next.filters
      return sameShapes fragments shapes
        && (d.isTimeAware || !fragments.any CqlFragment.isTimeRange)

end MapLayer
