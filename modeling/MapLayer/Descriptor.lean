import MapLayer.Column
import MapLayer.Style.Json

/-! The saved settings of one layer. What the model does not know is kept. -/

namespace MapLayer

open Json

structure Descriptor where
  sourceType : String
  baseUrl : String
  layer : String
  name : String
  timeColumn : String := ""
  geoColumn : String := ""
  nrt : Bool := false
  style : Option Style := none
  tooltipProperties : Option (List String) := none
  columns : Option (List Column) := none
  extra : Keyed Json := {}

namespace Descriptor

def typeTag : String := "WMS_LAYER_SOURCE"

def names : List String :=
  ["type", "baseUrl", "layer", "name", "timeColumn", "geoColumn", "nrt", "sldBody",
    "tooltipProperties", "wfsColumns"]

def shape : Shape :=
  .openRecord [("sldBody", Style.shape), ("wfsColumns", .list Column.shape)]

def decode (v : Json) : Decoded Descriptor := do
  let (fields, extra) ← decodeOpen "a descriptor" names v
  return {
    sourceType := ← fields.orElse "type" typeTag decodeString
    baseUrl := ← fields.required "baseUrl" decodeString
    layer := ← fields.required "layer" decodeString
    name := ← fields.required "name" decodeString
    timeColumn := ← fields.orElse "timeColumn" "" decodeString
    geoColumn := ← fields.orElse "geoColumn" "" decodeString
    nrt := ← fields.orElse "nrt" false decodeBool
    style := ← fields.optional "sldBody" Style.decode
    tooltipProperties := ← fields.optional "tooltipProperties" (decodeList decodeString)
    columns := ← fields.optional "wfsColumns" (decodeList Column.decode)
    extra }

def toJson (d : Descriptor) : Json :=
  .ofMembers ([("type", .string d.sourceType), ("baseUrl", .string d.baseUrl),
      ("layer", .string d.layer), ("name", .string d.name),
      ("timeColumn", .string d.timeColumn), ("geoColumn", .string d.geoColumn),
      ("nrt", .bool d.nrt)]
    ++ optionalMember "sldBody" Style.toJson d.style
    ++ optionalMember "tooltipProperties" ofStrings d.tooltipProperties
    ++ optionalMember "wfsColumns" (fun cs => .array (cs.map Column.toJson)) d.columns
    ++ d.extra.entries)

def create (baseUrl layer name : String) : Descriptor :=
  { sourceType := typeTag, baseUrl, layer, name }

/-- The descriptor of another service or layer. The columns belong to the old one and are
forgotten. -/
def relocate (d : Descriptor) (baseUrl layer : String) : Descriptor :=
  if baseUrl = d.baseUrl ∧ layer = d.layer then d
  else { d with baseUrl, layer, timeColumn := "", geoColumn := "", nrt := false, columns := none }

def isTimeAware (d : Descriptor) : Bool := d.timeColumn != ""

def isGeoAware (d : Descriptor) : Bool := d.geoColumn != ""

def knownColumns (d : Descriptor) : List Column := d.columns.getD []

end Descriptor

end MapLayer
