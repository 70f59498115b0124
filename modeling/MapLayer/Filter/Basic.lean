import MapLayer.Json.Decode
import MapLayer.Json.Shape

/-! The filters and queries of a map as the map keeps them. -/

namespace MapLayer

structure FilterMeta where
  key : Option String := none
  kind : Option String := none
  negate : Bool := false
  disabled : Bool := false
  isMultiIndex : Bool := false
deriving DecidableEq, Repr

structure FilterDescriptor where
  about : FilterMeta := {}
  query : Option Json := none

structure SourceQuery where
  query : Json
  language : String

namespace FilterMeta

def names : List String := ["key", "type", "negate", "disabled", "isMultiIndex"]

def shape : Json.Shape := .plain names

def decode (v : Json) : Json.Decoded FilterMeta := do
  let fields ← Json.decodeFields "what a filter is about" names v
  return {
    key := ← fields.optional "key" Json.decodeString
    kind := ← fields.optional "type" Json.decodeString
    negate := ← fields.orElse "negate" false Json.decodeBool
    disabled := ← fields.orElse "disabled" false Json.decodeBool
    isMultiIndex := ← fields.orElse "isMultiIndex" false Json.decodeBool }

def toJson (m : FilterMeta) : Json :=
  .ofMembers [("key", .ofOption .string m.key), ("type", .ofOption .string m.kind),
    ("negate", .bool m.negate), ("disabled", .bool m.disabled),
    ("isMultiIndex", .bool m.isMultiIndex)]

end FilterMeta

namespace FilterDescriptor

def shape : Json.Shape := .record [("meta", FilterMeta.shape), ("query", .whole)]

def decode (v : Json) : Json.Decoded FilterDescriptor := do
  let fields ← Json.decodeFields "a filter" ["meta", "query"] v
  return {
    about := ← fields.orElse "meta" {} FilterMeta.decode
    query := ← fields.optional "query" fun v => .ok v.canonical }

def toJson (f : FilterDescriptor) : Json :=
  .ofMembers (("meta", f.about.toJson) :: Json.optionalMember "query" id f.query)

instance : BEq FilterDescriptor := ⟨fun a b => a.about == b.about && a.query == b.query⟩

/-- Whether the filter may limit a geometry column. -/
def targets (f : FilterDescriptor) (column : String) : Bool :=
  f.about.key == some column || f.about.isMultiIndex || f.about.kind == some "custom"

/-- The alternatives of a filter: the entries of its `should` list, or else the query itself. -/
def clauses (f : FilterDescriptor) : List Json :=
  match f.query with
  | none => []
  | some query => match ((query.get? "bool").bind (·.get? "should")).bind Json.array? with
    | some should => should
    | none => [query]

end FilterDescriptor

namespace SourceQuery

def understood : String := "kuery"

def ofText (text : String) : SourceQuery := ⟨.string text, understood⟩

def names : List String := ["query", "language"]

def shape : Json.Shape := .plain names

def decode (v : Json) : Json.Decoded SourceQuery := do
  let fields ← Json.decodeFields "a query" names v
  return {
    query := ← fields.required "query" fun v => .ok v.canonical
    language := ← fields.required "language" Json.decodeString }

def toJson (q : SourceQuery) : Json :=
  .ofMembers [("query", q.query), ("language", .string q.language)]

instance : BEq SourceQuery := ⟨fun a b => a.query == b.query && a.language == b.language⟩

/-- The query text. Anything but a text is written as JSON. -/
def text (q : SourceQuery) : String :=
  match q.query with
  | .string s => s
  | v => v.text

end SourceQuery

end MapLayer
