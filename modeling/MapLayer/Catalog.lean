import MapLayer.Client
import MapLayer.Descriptor

/-! Finding out which layers services offer, and which columns layers have. -/

namespace MapLayer

/-- A service and the layers that it offers. -/
structure ServiceEntry where
  title : String
  baseUrl : String
  featureUrl : String
  layers : List LayerInfo
deriving DecidableEq, Repr

/-- The columns of a layer and the feature service that describes them. -/
structure LayerSchema where
  featureUrl : String
  columns : List Column
deriving DecidableEq, Repr

namespace ServiceEntry

def toJson (e : ServiceEntry) : Json :=
  .ofMembers [("title", .string e.title), ("baseUrl", .string e.baseUrl),
    ("wfsUrl", .string e.featureUrl), ("layers", .array (e.layers.map LayerInfo.toJson))]

end ServiceEntry

namespace LayerSchema

def timeColumns (s : LayerSchema) : List String := Column.timeNames s.columns

def geometryColumns (s : LayerSchema) : List String := Column.geometryNames s.columns

def apply (s : LayerSchema) (d : Descriptor) : Descriptor := { d with columns := some s.columns }

end LayerSchema

namespace Network

/-- A service without layers is its own feature service. -/
def firstFeatureUrl (network : Network) (base : String) : List LayerInfo → Outcome String
  | layer :: _ => network.featureService base layer.name
  | [] => .ok base

def discoverService (network : Network) (base : String) : Outcome ServiceEntry := do
  let found ← network.capabilities base
  return {
    title := found.titleOr base
    baseUrl := base
    featureUrl := ← network.firstFeatureUrl base found.layers
    layers := found.layers }

/-- Every service, in order. One that fails does not stop the others. -/
def discoverServices (network : Network) (urls : List String) :
    List (String × Outcome ServiceEntry) :=
  urls.map fun url => (url, network.discoverService url)

def discoverSchema (network : Network) (base layer : String) : Outcome LayerSchema := do
  let featureUrl ← network.featureService base layer
  return { featureUrl, columns := ← network.columns featureUrl layer }

end Network

end MapLayer
