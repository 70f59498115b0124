import MapLayer.Json.Shape
import MapLayer.Style.Basic

/-! Styles as JSON. -/

namespace MapLayer

open Json

def textMember (name s : String) : List (String × Json) :=
  if s = "" then [] else [(name, .string s)]

def numbersJson (xs : List Float) : Json := .array (xs.map .float)

namespace FillSymbolizer

def names : List String :=
  ["color", "opacity", "fillOpacity", "outlineColor", "outlineOpacity", "outlineWidth"]

def decode (v : Json) : Decoded FillSymbolizer := do
  let (fields, extra) ← decodeOpen "a fill" ("kind" :: names) v
  return {
    color := ← fields.optional "color" decodeString
    opacity := ← fields.optional "opacity" decodeFloat
    fillOpacity := ← fields.optional "fillOpacity" decodeFloat
    outlineColor := ← fields.optional "outlineColor" decodeString
    outlineOpacity := ← fields.optional "outlineOpacity" decodeFloat
    outlineWidth := ← fields.optional "outlineWidth" decodeFloat
    extra }

def members (s : FillSymbolizer) : List (String × Json) :=
  optionalMember "color" .string s.color
    ++ optionalMember "opacity" .float s.opacity
    ++ optionalMember "fillOpacity" .float s.fillOpacity
    ++ optionalMember "outlineColor" .string s.outlineColor
    ++ optionalMember "outlineOpacity" .float s.outlineOpacity
    ++ optionalMember "outlineWidth" .float s.outlineWidth
    ++ s.extra.entries

end FillSymbolizer

namespace LineSymbolizer

def names : List String := ["color", "width", "opacity", "dasharray"]

def decode (v : Json) : Decoded LineSymbolizer := do
  let (fields, extra) ← decodeOpen "a line" ("kind" :: names) v
  return {
    color := ← fields.optional "color" decodeString
    width := ← fields.optional "width" decodeFloat
    opacity := ← fields.optional "opacity" decodeFloat
    dasharray := ← fields.optional "dasharray" (decodeList decodeFloat)
    extra }

def members (s : LineSymbolizer) : List (String × Json) :=
  optionalMember "color" .string s.color
    ++ optionalMember "width" .float s.width
    ++ optionalMember "opacity" .float s.opacity
    ++ optionalMember "dasharray" numbersJson s.dasharray
    ++ s.extra.entries

end LineSymbolizer

namespace MarkSymbolizer

def names : List String :=
  ["wellKnownName", "color", "opacity", "radius", "strokeColor", "strokeOpacity", "strokeWidth"]

def decode (v : Json) : Decoded MarkSymbolizer := do
  let (fields, extra) ← decodeOpen "a mark" ("kind" :: names) v
  return {
    wellKnownName := ← fields.optional "wellKnownName" decodeString
    color := ← fields.optional "color" decodeString
    opacity := ← fields.optional "opacity" decodeFloat
    radius := ← fields.optional "radius" decodeFloat
    strokeColor := ← fields.optional "strokeColor" decodeString
    strokeOpacity := ← fields.optional "strokeOpacity" decodeFloat
    strokeWidth := ← fields.optional "strokeWidth" decodeFloat
    extra }

def members (s : MarkSymbolizer) : List (String × Json) :=
  optionalMember "wellKnownName" .string s.wellKnownName
    ++ optionalMember "color" .string s.color
    ++ optionalMember "opacity" .float s.opacity
    ++ optionalMember "radius" .float s.radius
    ++ optionalMember "strokeColor" .string s.strokeColor
    ++ optionalMember "strokeOpacity" .float s.strokeOpacity
    ++ optionalMember "strokeWidth" .float s.strokeWidth
    ++ s.extra.entries

end MarkSymbolizer

namespace TextSymbolizer

def names : List String :=
  ["label", "color", "opacity", "size", "font", "haloColor", "haloOpacity", "haloWidth"]

def decode (v : Json) : Decoded TextSymbolizer := do
  let (fields, extra) ← decodeOpen "a text" ("kind" :: names) v
  return {
    label := ← fields.optional "label" decodeString
    color := ← fields.optional "color" decodeString
    opacity := ← fields.optional "opacity" decodeFloat
    size := ← fields.optional "size" decodeFloat
    font := ← fields.optional "font" (decodeList decodeString)
    haloColor := ← fields.optional "haloColor" decodeString
    haloOpacity := ← fields.optional "haloOpacity" decodeFloat
    haloWidth := ← fields.optional "haloWidth" decodeFloat
    extra }

def members (s : TextSymbolizer) : List (String × Json) :=
  optionalMember "label" .string s.label
    ++ optionalMember "color" .string s.color
    ++ optionalMember "opacity" .float s.opacity
    ++ optionalMember "size" .float s.size
    ++ optionalMember "font" ofStrings s.font
    ++ optionalMember "haloColor" .string s.haloColor
    ++ optionalMember "haloOpacity" .float s.haloOpacity
    ++ optionalMember "haloWidth" .float s.haloWidth
    ++ s.extra.entries

end TextSymbolizer

namespace Symbolizer

/-- The kind of a symbolizer is one of its members. -/
def decode (v : Json) : Decoded Symbolizer := do
  let (fields, extra) ← decodeOpen "a symbolizer" ["kind"] v
  match ← fields.required "kind" decodeString with
  | "Fill" => fill <$> FillSymbolizer.decode v
  | "Line" => line <$> LineSymbolizer.decode v
  | "Mark" => mark <$> MarkSymbolizer.decode v
  | "Text" => text <$> TextSymbolizer.decode v
  | "Icon" => return icon extra
  | "Raster" => return raster extra
  | other => .error (.unknownVariant other)

def kind : Symbolizer → String
  | fill _ => "Fill"
  | line _ => "Line"
  | mark _ => "Mark"
  | text _ => "Text"
  | icon _ => "Icon"
  | raster _ => "Raster"

def members : Symbolizer → List (String × Json)
  | fill s => s.members
  | line s => s.members
  | mark s => s.members
  | text s => s.members
  | icon members | raster members => members.entries

def toJson (s : Symbolizer) : Json :=
  .ofMembers (("kind", .string s.kind) :: s.members)

end Symbolizer

namespace ScaleDenominator

def names : List String := ["min", "max"]

def shape : Shape := .plain names

def decode (v : Json) : Decoded ScaleDenominator := do
  let fields ← decodeFields "a range of scales" names v
  return {
    min := ← fields.optional "min" decodeFloat
    max := ← fields.optional "max" decodeFloat }

def toJson (s : ScaleDenominator) : Json :=
  .ofMembers (optionalMember "min" .float s.min ++ optionalMember "max" .float s.max)

end ScaleDenominator

namespace StyleRule

def shape : Shape := .openRecord [("scaleDenominator", ScaleDenominator.shape)]

def decode (v : Json) : Decoded StyleRule := do
  let (fields, extra) ← decodeOpen "a rule"
    ["name", "filter", "scaleDenominator", "symbolizers"] v
  return {
    name := ← fields.orElse "name" "" decodeString
    filter := ← fields.optional "filter" StyleFilter.decode
    scale := ← fields.optional "scaleDenominator" ScaleDenominator.decode
    symbolizers := ← fields.orElse "symbolizers" [] (decodeList Symbolizer.decode)
    extra }

def toJson (r : StyleRule) : Json :=
  .ofMembers (textMember "name" r.name
    ++ optionalMember "filter" StyleFilter.toJson r.filter
    ++ optionalMember "scaleDenominator" ScaleDenominator.toJson r.scale
    ++ ("symbolizers", .array (r.symbolizers.map Symbolizer.toJson)) :: r.extra.entries)

end StyleRule

namespace Style

def shape : Shape := .openRecord [("rules", .list StyleRule.shape)]

def decode (v : Json) : Decoded Style := do
  let (fields, extra) ← decodeOpen "a style" ["name", "rules"] v
  return {
    name := ← fields.orElse "name" "" decodeString
    rules := ← fields.orElse "rules" [] (decodeList StyleRule.decode)
    extra }

def toJson (s : Style) : Json :=
  .ofMembers (textMember "name" s.name
    ++ ("rules", .array (s.rules.map StyleRule.toJson)) :: s.extra.entries)

end Style

end MapLayer
