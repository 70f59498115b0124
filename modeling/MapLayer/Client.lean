import MapLayer.Network
import MapLayer.Request.Discovery
import MapLayer.Request.FeatureInfo
import MapLayer.Response.Capabilities
import MapLayer.Response.FeatureGroups
import MapLayer.Response.LayerDescription

/-! The questions that can be put to a service. -/

namespace MapLayer.Network

def fetch (network : Network) (base : String) (params : List (String × String)) :
    Outcome String := do
  let url ← buildUrl base params
  match network.get url with
  | .ok text => return text
  | .error reason => throw (.serviceUnreachable base reason)

def capabilities (network : Network) (base : String) : Outcome Capabilities := do
  Capabilities.parse (← network.fetch base Discovery.capabilities)

/-- The feature service of a layer. A service that names none is its own. -/
def featureService (network : Network) (base layer : String) : Outcome String := do
  let named ← LayerDescription.parse (← network.fetch base (Discovery.describeLayer layer))
  return named.getD base

def columns (network : Network) (service layer : String) : Outcome (List Column) := do
  LayerDescription.parseColumns (← network.fetch service (Discovery.describeFeatureType layer))

def featureInfo (network : Network) (base : String) (r : FeatureInfo) :
    Outcome (List FeatureGroup) := do
  return FeatureGroup.parseAll (← network.fetch base r.params)

end MapLayer.Network
