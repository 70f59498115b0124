import MapLayer.Style.Filter

/-! Styles: rules that say which features are drawn and how. What the model does not know is kept
beside it, so that a style is stored as it was read. -/

namespace MapLayer

structure FillSymbolizer where
  color : Option String := none
  opacity : Option Float := none
  fillOpacity : Option Float := none
  outlineColor : Option String := none
  outlineOpacity : Option Float := none
  outlineWidth : Option Float := none
  extra : Keyed Json := {}

/-- The opacity of the filling alone comes before that of the whole symbolizer. -/
def FillSymbolizer.effectiveOpacity (s : FillSymbolizer) : Option Float :=
  s.fillOpacity.or s.opacity

structure LineSymbolizer where
  color : Option String := none
  width : Option Float := none
  opacity : Option Float := none
  dasharray : Option (List Float) := none
  extra : Keyed Json := {}

structure MarkSymbolizer where
  wellKnownName : Option String := none
  color : Option String := none
  opacity : Option Float := none
  radius : Option Float := none
  strokeColor : Option String := none
  strokeOpacity : Option Float := none
  strokeWidth : Option Float := none
  extra : Keyed Json := {}

structure TextSymbolizer where
  label : Option String := none
  color : Option String := none
  opacity : Option Float := none
  size : Option Float := none
  font : Option (List String) := none
  haloColor : Option String := none
  haloOpacity : Option Float := none
  haloWidth : Option Float := none
  extra : Keyed Json := {}

/-- How a feature is drawn. Icons and rasters are kept as they are written. -/
inductive Symbolizer
  | fill (s : FillSymbolizer)
  | line (s : LineSymbolizer)
  | mark (s : MarkSymbolizer)
  | text (s : TextSymbolizer)
  | icon (members : Keyed Json)
  | raster (members : Keyed Json)

structure ScaleDenominator where
  min : Option Float := none
  max : Option Float := none

structure StyleRule where
  name : String := ""
  filter : Option StyleFilter := none
  scale : Option ScaleDenominator := none
  symbolizers : List Symbolizer := []
  extra : Keyed Json := {}

structure Style where
  name : String := ""
  rules : List StyleRule := []
  extra : Keyed Json := {}

end MapLayer
