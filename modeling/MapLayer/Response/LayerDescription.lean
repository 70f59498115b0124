import MapLayer.Column
import MapLayer.Failure
import MapLayer.Json.Parser
import MapLayer.Xml.Attribute

/-! The feature service of a layer, and the columns that it describes. -/

namespace MapLayer.LayerDescription

open Xml

/-- In full the message goes on with the position of the reader and its own words, and of an attribute it has
those words alone. Position and words are left out here. -/
def malformed : Failure := .malformedXml "DescribeLayer parse error"

/-- The first address among the attributes of a description. -/
def featureUrl? : List Attribute → Outcome (Option String)
  | [] => .ok none
  | .malformed :: _ => .error malformed
  | .pair name value :: rest =>
    if localName name = ['w', 'f', 's'] then
      match unescape? value with
      | none => .error malformed
      | some s =>
        if Text.trim s = [] then featureUrl? rest else .ok (some (String.ofList (Text.trim s)))
    else featureUrl? rest

/-- The first description counts, and nothing behind it. -/
def firstDescription : List Event → Outcome (Option String)
  | [] => .ok none
  | .malformed :: _ => .error malformed
  | .start tag :: rest | .empty tag :: rest =>
    if localName tag.name = "LayerDescription".toList then featureUrl? tag.attributes
    else firstDescription rest
  | _ :: rest => firstDescription rest

def parse (xml : String) : Outcome (Option String) :=
  firstDescription (events xml.toList)

def decodeType (v : Json) : Json.Decoded (List Column) := do
  let fields ← Json.decodeFields "a feature type" ["properties"] v
  fields.orElse "properties" [] (Json.decodeList Column.decode)

/-- Of a list of feature types only the columns are read. -/
def typesShape : Json.Shape :=
  .record [("featureTypes", .list (.record [("properties", .list Column.shape)]))]

def decodeTypes (v : Json) : Json.Decoded (List (List Column)) := do
  let fields ← Json.decodeFields "a list of feature types" ["featureTypes"] v
  fields.orElse "featureTypes" [] (Json.decodeList decodeType)

/-- The columns of the first feature type in a text. Why a text is no JSON is left out. -/
def parseColumns (text : String) : Outcome (List Column) :=
  match Json.parseAs? typesShape text with
  | none => .error (.internal "JSON error")
  | some v => match decodeTypes v with
    | .error m => .error (.internal s!"JSON error: {m.message}")
    | .ok [] => .error (.noData "DescribeFeatureType returned no feature types")
    | .ok (columns :: _) => .ok columns

end MapLayer.LayerDescription
