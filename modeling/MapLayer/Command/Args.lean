import MapLayer.Decimal.Reader
import MapLayer.Environment.Expand
import MapLayer.Settings

/-!
The arguments of the program. Every option is a word behind two dashes; its value is the next word,
or stands behind an equals sign.
-/

namespace MapLayer.Command

/-- What an option takes. -/
inductive Takes
  | nothing
  | text
  /-- A text that is not empty. -/
  | path
  | number
deriving DecidableEq

abbrev Options := List (String × Takes)

/-- The options that were given, with their values, in order. -/
abbrev Given := List (String × String)

/-- The name behind two dashes, and the value behind an equals sign. -/
def long? (arg : String) : Option (String × Option String) :=
  match arg.toList with
  | '-' :: '-' :: c :: s => match Text.cut? ['='] (c :: s) with
    | some (name, value) => some (String.ofList name, some (String.ofList value))
    | none => some (String.ofList (c :: s), none)
  | _ => none

/-- Digits with at most one point after the first and one exponent without a sign. -/
def looksNumeric (s : List Char) : Bool :=
  let whole := s.takeWhile Char.isDigit
  let r := s.dropWhile Char.isDigit
  let r := match r with
    | '.' :: t => if whole = [] then r else t.dropWhile Char.isDigit
    | _ => r
  match r with
  | [] => true
  | 'e' :: ds => whole != [] && ds != [] && ds.all Char.isDigit
  | _ => false

/-- Whether a word can be the value of an option before it. Words with a dash in front are options,
but for negative numbers and the dash alone. -/
def isValue (takes : Takes) (word : String) : Bool :=
  match word.toList with
  | '-' :: c :: s => takes == .number && looksNumeric (c :: s)
  | _ => true

def accepts (takes : Takes) (value : String) : Bool :=
  match takes with
  | .nothing => false
  | .text => true
  | .path => value != ""
  | .number => (Decimal.float? value.toList).isSome

/-- The options at the front of some words, and the words from the first on that is none. Two dashes
alone end the options. -/
def readOptions (options : Options) : List String → Option (Given × List String)
  | [] => some ([], [])
  | arg :: rest => match long? arg with
    | none => match arg.toList with
      | ['-', '-'] => if rest = [] then some ([], []) else none
      | '-' :: _ :: _ => none
      | _ => some ([], arg :: rest)
    | some (name, attached) => match options.lookup name, attached with
      | none, _ => none
      | some .nothing, some _ => none
      | some .nothing, none =>
        (readOptions options rest).map fun (given, words) => ((name, "") :: given, words)
      | some takes, some value =>
        if accepts takes value then
          (readOptions options rest).map fun (given, words) => ((name, value) :: given, words)
        else none
      | some takes, none => match rest with
        | [] => none
        | value :: rest =>
          if isValue takes value && accepts takes value then
            (readOptions options rest).map fun (given, words) => ((name, value) :: given, words)
          else none

def all (name : String) (given : Given) : List String :=
  (given.filter (·.1 == name)).map (·.2)

def value? (name : String) (given : Given) : Option String := given.lookup name

/-- Whether no option is given twice, but for one. -/
def onceBut (repeatable : Option String) (given : Given) : Bool :=
  given.all fun (name, _) => some name == repeatable || (all name given).length == 1

structure TileUrlArgs where
  descriptor : Option String
  url : Option String
  layer : Option String
  geoColumn : Option String
  timeColumn : Option String
  selection : Option String
  query : Option String
  range : Option (String × String)
  style : Option String

structure FeatureInfoArgs where
  url : String
  layer : String
  lng : Float
  lat : Float
  resolution : Float
  cql : Option String
  fields : List String

inductive Task
  | discover (urls : List String)
  | columns (url layer : String)
  | tileUrl (args : TileUrlArgs)
  | featureInfo (args : FeatureInfoArgs)

structure Invocation where
  config : Option String
  client : ClientSettings
  task : Task

def discover? (args : List String) : Option Task := do
  let (given, []) ← readOptions [("url", .text)] args | none
  return .discover (all "url" given)

def columns? (args : List String) : Option Task := do
  let (given, []) ← readOptions [("url", .text), ("layer", .text)] args | none
  if !onceBut none given then none
  else return .columns (← value? "url" given) (← value? "layer" given)

def tileUrlOptions : Options :=
  [("descriptor", .path), ("url", .text), ("layer", .text), ("geo-column", .text),
    ("time-column", .text), ("meta", .path), ("query", .text), ("from", .text), ("to", .text),
    ("style", .path)]

/-- The two ends of a range, of which there are both or none. -/
def range? (given : Given) : Option (Option (String × String)) :=
  match value? "from" given, value? "to" given with
  | some start, some stop => some (some (start, stop))
  | none, none => some none
  | _, _ => none

/-- Without a saved descriptor, service and layer have to be given. -/
def tileUrl? (args : List String) : Option Task := do
  let (given, []) ← readOptions tileUrlOptions args | none
  let range ← range? given
  let value (name : String) : Option String := value? name given
  if !onceBut none given
      || ((value "descriptor").isNone && ((value "url").isNone || (value "layer").isNone)) then
    none
  else return .tileUrl {
    descriptor := value "descriptor"
    url := value "url"
    layer := value "layer"
    geoColumn := value "geo-column"
    timeColumn := value "time-column"
    selection := value "meta"
    query := value "query"
    range
    style := value "style" }

def featureInfoOptions : Options :=
  [("url", .text), ("layer", .text), ("lng", .number), ("lat", .number), ("resolution", .text),
    ("cql", .text), ("field", .text)]

def featureInfo? (args : List String) : Option Task := do
  let (given, []) ← readOptions featureInfoOptions args | none
  let number (s : String) : Option Float := Decimal.float? s.toList
  if !onceBut (some "field") given then none
  else return .featureInfo {
    url := ← value? "url" given
    layer := ← value? "layer" given
    lng := ← (value? "lng" given).bind number
    lat := ← (value? "lat" given).bind number
    resolution := ← number ((value? "resolution" given).getD "0.001")
    cql := value? "cql" given
    fields := all "field" given }

def task? (word : String) (args : List String) : Option Task :=
  match word with
  | "discover" => discover? args
  | "columns" => columns? args
  | "tile-url" => tileUrl? args
  | "feature-info" => featureInfo? args
  | _ => none

/-- A whole number below 2^64, which may have a plus sign. -/
def seconds? (s : String) : Option Nat :=
  let ds := match s.toList with
    | '+' :: ds => ds
    | ds => ds
  if ds = [] || !ds.all Char.isDigit || Nat.pow 2 64 ≤ Decimal.natOf ds then none
  else some (Decimal.natOf ds)

def sharedOptions : Options :=
  [("config", .path), ("timeout-secs", .text), ("log-level", .text), ("json-logs", .nothing)]

/-- The value of an option, or else of the variable that stands in for it. -/
def orSetting (env : Environment) (given : Given) (name setting : String) : Option String :=
  (value? name given).or (env.get? setting)

def configSetting : String := "WMS_LAYER_CONFIG"

def timeoutSetting : String := "WMS_LAYER_TIMEOUT"

/-- The invocation that the arguments ask for. Some options may stand before the task, and two of
them may be set in the environment. -/
def parse? (env : Environment) (args : List String) : Option Invocation := do
  let (given, word :: rest) ← readOptions sharedOptions args | none
  let config := orSetting env given "config" configSetting
  let timeout := (orSetting env given "timeout-secs" timeoutSetting).getD "30"
  if !onceBut none given || config == some "" then none
  else return {
    config
    client := { requestTimeout := 1000 * (← seconds? timeout) }
    task := ← task? word rest }

end MapLayer.Command
