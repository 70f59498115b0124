import MapLayer.Client
import MapLayer.Staleness
import MapLayer.Tooltip

/-! A layer on a map: it checks whether its tiles are stale, and answers clicks. -/

namespace MapLayer

structure LayerSource where
  id : String
  descriptor : Descriptor
  /-- The filter of the tiles on the map, as the last check that found one saw it. -/
  shownFilter : Option String := none

namespace LayerSource

def savedId? (d : Descriptor) : Option String :=
  (d.extra.get? "id").bind Json.string?

/-- The source of a descriptor, with a new id if none is saved. -/
def ofDescriptor (fresh : String) (d : Descriptor) : LayerSource :=
  { id := (savedId? d).getD fresh, descriptor := d }

/-- A check that found a filter is remembered. -/
def sawCheck (s : LayerSource) (check : StaleCheck) : LayerSource :=
  match check.cql with
  | some cql => { s with shownFilter := some cql }
  | none => s

/-- Nothing of the source is shown any more. -/
def released (s : LayerSource) : LayerSource := { s with shownFilter := none }

def canReuse (s : LayerSource) (before : Option Selection) (next : Selection)
    (previousUrl : Option String) : Outcome Bool := do
  MapLayer.canReuse s.descriptor before next (← fragmentsOf previousUrl)

def clickRequest (s : LayerSource) (map : HostMap) (click : Click) : FeatureInfo :=
  ({ layer := s.descriptor.layer
     bbox := clickBox click.lng click.lat (click.resolution map) } : FeatureInfo).withFilter
    s.shownFilter

def tooltip (s : LayerSource) (groups : List FeatureGroup) : Outcome Tooltip :=
  match groups with
  | [] => .error (.noData s!"No features of {s.descriptor.layer} at click")
  | group :: _ => .ok (.ofGroup s.descriptor.name group s.descriptor.tooltipProperties)

def answer (s : LayerSource) (network : Network) (map : HostMap) (click : Click) :
    Outcome Tooltip := do
  s.tooltip (← network.featureInfo s.descriptor.baseUrl (s.clickRequest map click))

end LayerSource

end MapLayer
