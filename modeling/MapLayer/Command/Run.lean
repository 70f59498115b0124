import MapLayer.Catalog
import MapLayer.Command.Args
import MapLayer.Environment.File
import MapLayer.Json.Parser
import MapLayer.Services
import MapLayer.Settings
import MapLayer.Style.Check
import MapLayer.TileUrl
import MapLayer.Tooltip

/-! What the program does for its arguments. What it prints is JSON, but for addresses of tiles. -/

namespace MapLayer.Command

/-- What the program finds around it. -/
structure World where
  file : String → Option String
  env : Environment
  connect : ClientSettings → Network
  now : Instant

inductive Fault
  | unreadable (path : String)
  | badJson (path : String)
  | unreadableConfig (path : String)
  | badConfig (path : String)
  | badReference (fault : Environment.Fault)
  | failed (failure : Failure)

def Fault.message : Fault → String
  | unreadable path => s!"Failed to read {path}"
  | badJson path => s!"Invalid JSON in {path}"
  | unreadableConfig path => s!"Failed to read config file: {path}"
  | badConfig path => s!"Invalid config file: {path}"
  | badReference fault => fault.message
  | failed failure => failure.message

abbrev Result (α : Type) := Except Fault α

def lift {α : Type} (x : Outcome α) : Result α := x.mapError .failed

def printed (v : Json) : String := v.pretty ++ "\n"

/-- What the user is told of a failure, if the user is told of it at all. -/
def notified (failure : Failure) : Result String :=
  if failure.isUserFacing then
    .ok (printed (.ofMembers [("notification", .string failure.message)]))
  else .error (.failed failure)

/-- The services of a file, in which references to the environment are replaced. -/
def services (w : World) : Option String → Result ServiceList
  | none => .ok {}
  | some path => do
    let some text := w.file path | throw (.unreadableConfig path)
    let expanded ← (w.env.expand text.toList).mapError .badReference
    (ServiceList.ofYaml (String.ofList expanded)).mapError fun _ => .badConfig path

def entryJson (url : String) : Outcome ServiceEntry → Result Json
  | .ok entry => .ok entry.toJson
  | .error failure =>
    if failure.isUserFacing then
      .ok (.ofMembers [("baseUrl", .string url), ("error", .string failure.message)])
    else .error (.failed failure)

def entriesJson : List (String × Outcome ServiceEntry) → Result (List Json)
  | [] => .ok []
  | (url, entry) :: rest => do
    let v ← entryJson url entry
    return v :: (← entriesJson rest)

/-- The services at some addresses, or those of the configuration. -/
def discover (network : Network) (s : ServiceList) (urls : List String) : Result String := do
  let urls := if urls = [] then s.urls else urls
  return printed (.array (← entriesJson (network.discoverServices urls)))

def columns (network : Network) (url layer : String) : Result String := do
  let schema ← lift (network.discoverSchema url layer)
  return printed (.ofMembers [("wfsUrl", .string schema.featureUrl),
    ("timeColumns", .ofStrings schema.timeColumns),
    ("geoColumns", .ofStrings schema.geometryColumns),
    ("columns", .array (schema.columns.map Column.toJson))])

/-- The value in a file, of which the parts of some shape are read. -/
def readJson {α : Type} (w : World) (shape : Json.Shape) (decode : Json → Json.Decoded α)
    (path : String) : Result α := do
  let some text := w.file path | throw (.unreadable path)
  let some v := Json.parseAs? shape text | throw (.badJson path)
  (decode v).mapError fun _ => .badJson path

/-- The saved descriptor, or a new one for a service and a layer. -/
def savedDescriptor (w : World) (a : TileUrlArgs) : Result Descriptor :=
  match a.descriptor with
  | some path => readJson w Descriptor.shape Descriptor.decode path
  | none =>
    let layer := a.layer.getD ""
    .ok (.create (a.url.getD "") layer layer)

def styleOr (w : World) (before : Option Style) : Option String → Result (Option Style)
  | none => .ok before
  | some path => do
    let style ← readJson w Style.shape Style.decode path
    lift style.check
    return some style

def descriptorOf (w : World) (a : TileUrlArgs) : Result Descriptor := do
  let d ← savedDescriptor w a
  return { d with
    geoColumn := a.geoColumn.getD d.geoColumn
    timeColumn := a.timeColumn.getD d.timeColumn
    style := ← styleOr w d.style a.style }

def selectionOf (w : World) (a : TileUrlArgs) : Result Selection := do
  let s ← match a.selection with
    | some path => readJson w Selection.shape Selection.decode path
    | none => .ok {}
  return { s with
    query := (a.query.map SourceQuery.ofText).or s.query
    timeRange := (a.range.map fun (start, stop) => ⟨start, stop⟩).or s.timeRange }

def tileUrl (w : World) (a : TileUrlArgs) : Result String := do
  let d ← descriptorOf w a
  let s ← selectionOf w a
  return (← lift (MapLayer.tileUrl d s w.now)) ++ "\n"

/-- What is printed for the features at a point: the tooltip of the first one. -/
def tooltipText (a : FeatureInfoArgs) : List FeatureGroup → Result String
  | [] => notified (.noData s!"No features of {a.layer} at point")
  | group :: _ => .ok (printed (Tooltip.ofGroup a.layer group (some a.fields)).toJson)

def featureInfo (network : Network) (a : FeatureInfoArgs) : Result String :=
  let request := ({ layer := a.layer, bbox := clickBox a.lng a.lat a.resolution }
    : FeatureInfo).withFilter a.cql
  match network.featureInfo a.url request with
  | .ok groups => tooltipText a groups
  | .error failure => notified failure

def perform (w : World) (i : Invocation) : Result String :=
  let network := w.connect i.client
  match i.task with
  | .discover urls => do discover network (← services w i.config) urls
  | .columns url layer => columns network url layer
  | .tileUrl a => tileUrl w a
  | .featureInfo a => featureInfo network a

inductive Ending
  /-- The arguments ask for nothing that the program does. -/
  | misused
  /-- The file of settings holds one that cannot be set. -/
  | unprepared
  | failed (fault : Fault)
  | printed (text : String)

def environmentFile : String := ".env"

/-- The environment with what a file sets, if there is one. Variables that are set stay as they
are. -/
def withSettings (env : Environment) (file : Option String) : Option Environment :=
  match file with
  | some text => env.withFile text
  | none => some env

def run (w : World) (args : List String) : Ending :=
  match withSettings w.env (w.file environmentFile) with
  | none => .unprepared
  | some env => match parse? env args with
    | none => .misused
    | some i => match perform { w with env } i with
      | .ok text => .printed text
      | .error fault => .failed fault

def Ending.code : Ending → UInt8
  | misused => 2
  | unprepared => 101
  | failed _ => 1
  | printed _ => 0

end MapLayer.Command
