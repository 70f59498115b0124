import MapLayer.Sld.Label
import MapLayer.Style.Basic
import MapLayer.Json.Printer
import MapLayer.Xml.Node

/-! The styled layer descriptor of a style, as sent with a request. -/

namespace MapLayer.Sld

open XmlNode

def number (x : Float) : String := String.ofList (Decimal.plain x)

def parameter (name value : String) : XmlNode :=
  element "CssParameter" [("name", name)] [text value]

def numberParameter? (name : String) (x : Option Float) : List XmlNode :=
  (x.map fun x => parameter name (number x)).toList

def textParameter? (name : String) (s : Option String) : List XmlNode :=
  (s.map (parameter name)).toList

/-- A literal: a text as it is, anything else as JSON. -/
def literal : Json → String
  | .string s => s
  | v => v.text

def comparisonName : Comparison → String
  | .equal => "ogc:PropertyIsEqualTo"
  | .notEqual => "ogc:PropertyIsNotEqualTo"
  | .less => "ogc:PropertyIsLessThan"
  | .lessOrEqual => "ogc:PropertyIsLessThanOrEqualTo"
  | .greater => "ogc:PropertyIsGreaterThan"
  | .greaterOrEqual => "ogc:PropertyIsGreaterThanOrEqualTo"
  | .like => "ogc:PropertyIsLike"

def comparisonAttributes : Comparison → List (String × String)
  | .like => [("wildCard", "*"), ("singleChar", "."), ("escape", "!")]
  | _ => []

mutual

def filter : StyleFilter → XmlNode
  | .comparison operator property value =>
    element (comparisonName operator) (comparisonAttributes operator)
      [leaf "ogc:PropertyName" property, leaf "ogc:Literal" (literal value)]
  | .and fs => element "ogc:And" [] (filters fs)
  | .or fs => element "ogc:Or" [] (filters fs)
  | .not f => element "ogc:Not" [] [filter f]

def filters : List StyleFilter → List XmlNode
  | [] => []
  | f :: fs => filter f :: filters fs

end

def stroke (color : String) (width opacity : Option Float) : XmlNode :=
  element "Stroke" [] (parameter "stroke" color
    :: (numberParameter? "stroke-width" width ++ numberParameter? "stroke-opacity" opacity))

/-- A filling, if it has a colour or an opacity. -/
def fill? (color : Option String) (opacity : Option Float) : List XmlNode :=
  match color, opacity with
  | none, none => []
  | _, _ =>
    [element "Fill" [] (textParameter? "fill" color ++ numberParameter? "fill-opacity" opacity)]

def labelPiece : LabelPiece → XmlNode
  | .text s => text (String.ofList s)
  | .column name => leaf "ogc:PropertyName" (String.ofList (Text.trim name))

def label (s : String) : XmlNode :=
  element "Label" [] (if LabelPiece.isTemplate s.toList then
      (LabelPiece.pieces s.toList).map labelPiece
    else [leaf "ogc:PropertyName" s])

def polygonSymbolizer (s : FillSymbolizer) : XmlNode :=
  element "PolygonSymbolizer" [] (fill? s.color s.effectiveOpacity
    ++ (s.outlineColor.map fun c => stroke c s.outlineWidth s.outlineOpacity).toList)

def lineSymbolizer (s : LineSymbolizer) : XmlNode :=
  element "LineSymbolizer" [] [element "Stroke" [] (textParameter? "stroke" s.color
    ++ numberParameter? "stroke-width" s.width
    ++ numberParameter? "stroke-opacity" s.opacity
    ++ textParameter? "stroke-dasharray"
      (s.dasharray.map fun ds => " ".intercalate (ds.map number)))]

/-- Marks are sized by their diameter. -/
def pointSymbolizer (s : MarkSymbolizer) : XmlNode :=
  element "PointSymbolizer" [] [element "Graphic" [] (
    element "Mark" [] ((s.wellKnownName.map (leaf "WellKnownName")).toList
      ++ fill? s.color s.opacity
      ++ (s.strokeColor.map fun c => stroke c s.strokeWidth s.strokeOpacity).toList)
    :: (s.radius.map fun r => leaf "Size" (number (r * 2.0))).toList)]

def font? (s : TextSymbolizer) : List XmlNode :=
  match s.font, s.size with
  | none, none => []
  | font, size => [element "Font" [] (
      textParameter? "font-family" (font.map fun names => ",".intercalate names)
        ++ numberParameter? "font-size" size)]

def halo? (s : TextSymbolizer) : List XmlNode :=
  (s.haloColor.map fun c => element "Halo" []
    ((s.haloWidth.map fun w => leaf "Radius" (number w)).toList
      ++ fill? (some c) s.haloOpacity)).toList

def textSymbolizer (s : TextSymbolizer) : XmlNode :=
  element "TextSymbolizer" []
    ((s.label.map label).toList ++ font? s ++ halo? s ++ fill? s.color s.opacity)

/-- The element of a symbolizer. Icons and rasters have none. -/
def symbolizer? : Symbolizer → Option XmlNode
  | .fill s => some (polygonSymbolizer s)
  | .line s => some (lineSymbolizer s)
  | .mark s => some (pointSymbolizer s)
  | .text s => some (textSymbolizer s)
  | .icon _ | .raster _ => none

def scale (s : ScaleDenominator) : List XmlNode :=
  (s.min.map fun x => leaf "MinScaleDenominator" (number x)).toList
    ++ (s.max.map fun x => leaf "MaxScaleDenominator" (number x)).toList

def rule (r : StyleRule) : XmlNode :=
  element "Rule" [] (leaf "Name" r.name
    :: ((r.filter.map fun f => element "ogc:Filter" [] [filter f]).toList
      ++ (r.scale.map scale).getD []
      ++ r.symbolizers.filterMap symbolizer?))

def document (layer : String) (style : Style) : XmlNode :=
  element "StyledLayerDescriptor"
    [("version", "1.0.0"), ("xmlns", "http://www.opengis.net/sld"),
      ("xmlns:ogc", "http://www.opengis.net/ogc"),
      ("xmlns:xlink", "http://www.w3.org/1999/xlink")]
    [element "NamedLayer" [] [leaf "Name" layer,
      element "UserStyle" [] [leaf "Name" style.name, leaf "Title" style.name,
        element "FeatureTypeStyle" [] (style.rules.map rule)]]]

/-- The first line of the document's text, without a line break. -/
def declaration : String := "<?xml version=\"1.0\" encoding=\"UTF-8\"?>"

def write (layer : String) (style : Style) : String :=
  declaration ++ String.ofList (document layer style).render

end MapLayer.Sld
