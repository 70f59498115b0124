import MapLayer.Failure
import MapLayer.Json.Decode
import MapLayer.Yaml.Node

/-! The services that are offered when a layer is chosen. -/

namespace MapLayer

/-- Services as three lists of the same length: titles, addresses, and the layer of each. -/
structure ServiceList where
  titles : List String := ["Mines", "Phosphate", "Energy"]
  urls : List String :=
    ["https://mrdata.usgs.gov/services/active-mines",
      "https://mrdata.usgs.gov/services/phosphate", "https://idena.navarra.es/ogc/ows"]
  layers : List String := ["mineplant", "phosphate", "IDENA:ENERGI_Lin_Peolico"]
deriving DecidableEq, Repr

namespace ServiceList

/-- A list that is missing keeps its usual value. -/
def decode (v : Json) : Json.Decoded ServiceList := do
  let fields ← Json.decodeFields "a list of services" ["titles", "urls", "layers"] v
  let usual : ServiceList := {}
  return {
    titles := ← fields.orElse "titles" usual.titles (Json.decodeList Json.decodeString)
    urls := ← fields.orElse "urls" usual.urls (Json.decodeList Json.decodeString)
    layers := ← fields.orElse "layers" usual.layers (Json.decodeList Json.decodeString) }

def toJson (s : ServiceList) : Json :=
  .ofMembers [("titles", .ofStrings s.titles), ("urls", .ofStrings s.urls),
    ("layers", .ofStrings s.layers)]

def invalid (message : String) : Failure := .invalidParameter "config" message

def isWebUrl (url : String) : Bool :=
  "http://".isPrefixOf url || "https://".isPrefixOf url

/-- The lists have to be of one length, and the addresses web addresses. -/
def check (s : ServiceList) : Outcome Unit :=
  if s.titles.length ≠ s.urls.length ∨ s.layers.length ≠ s.urls.length then
    .error (invalid (s!"titles ({s.titles.length}), urls ({s.urls.length}) and layers "
      ++ s!"({s.layers.length}) must have the same length"))
  else match s.urls.find? fun url => !isWebUrl url with
    | some url => .error (invalid ("'" ++ url ++ "' is not an http(s) URL"))
    | none => .ok ()

open Yaml

def text? (document n : Node) : Option String :=
  match document.valueIn? n with
  | some (.scalar _ text) => some text
  | _ => none

/-- The texts of a list. A value that is left out is an empty list. -/
def texts? (document n : Node) : Option (List String) :=
  match document.valueIn? n with
  | some (.sequence items) => items.mapM (text? document)
  | some (.scalar true "") => some []
  | _ => none

/-- The list of a key, which may be given once. -/
def list? (document : Node) (name : String) (usual : List String)
    (entries : List (String × Node)) : Option (List String) :=
  match entries.filter (·.1 == name) with
  | [] => some usual
  | [(_, n)] => texts? document n
  | _ => none

/-- The entries of a document that is a mapping, whose keys are scalars. -/
def entries? (document : Node) : Option (List (String × Node)) :=
  match document.valueIn? document with
  | some (.mapping entries) =>
    entries.mapM fun (key, n) => (text? document key).map fun name => (name, n)
  | some (.scalar true "") => some []
  | _ => none

/-- The lists of a document. Those that are missing keep their usual values, and so do all of them
without a document. -/
def ofDocument? (document : Option Node) : Option ServiceList := do
  let document := document.getD .empty
  let entries ← entries? document
  let usual : ServiceList := {}
  return {
    titles := ← list? document "titles" usual.titles entries
    urls := ← list? document "urls" usual.urls entries
    layers := ← list? document "layers" usual.layers entries }

def ofYaml (text : String) : Outcome ServiceList :=
  match (Yaml.parse? text).bind ofDocument? with
  | none => .error (invalid "unreadable document")
  | some s => do
    s.check
    return s

end ServiceList

end MapLayer
