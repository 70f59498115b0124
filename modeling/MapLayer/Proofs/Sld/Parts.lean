import MapLayer.Proofs.Xml.Tree
import MapLayer.Sld.Document
import MapLayer.Style.Check

/-!
The elements of the document of a style. Main statement: they have tags of a fixed list, and colours and
opacities are parameters just where the symbolizers have them.
-/

namespace MapLayer.Sld

open XmlNode

/-- The tags of a document, but for those of rules and parameters. -/
def frameTags : List (String × List (String × String)) :=
  ("StyledLayerDescriptor", [("version", "1.0.0"), ("xmlns", "http://www.opengis.net/sld"),
      ("xmlns:ogc", "http://www.opengis.net/ogc"),
      ("xmlns:xlink", "http://www.w3.org/1999/xlink")])
    :: Comparison.all.map (fun c => (comparisonName c, comparisonAttributes c))
    ++ ["NamedLayer", "Name", "UserStyle", "Title", "FeatureTypeStyle", "ogc:Filter", "ogc:And",
      "ogc:Or", "ogc:Not", "ogc:PropertyName", "ogc:Literal", "MinScaleDenominator",
      "MaxScaleDenominator", "PolygonSymbolizer", "LineSymbolizer", "PointSymbolizer",
      "TextSymbolizer", "Fill", "Stroke", "Graphic", "Mark", "WellKnownName", "Size", "Label",
      "Font", "Halo", "Radius"].map (·, [])

/-- The parameters that are neither colours nor opacities. -/
def plainParameters : List String := ["stroke-width", "stroke-dasharray", "font-family", "font-size"]

/-- What holds of all elements of a document that are neither rules nor colours nor opacities. -/
structure HoldsOfFrame (p : XmlNode → Prop) : Prop where
  frame : ∀ tag ∈ frameTags, ∀ children, p (element tag.1 tag.2 children)
  plain : ∀ name ∈ plainParameters, ∀ value, p (parameter name value)

def HoldsOfColor (p : XmlNode → Prop) (color : String) : Prop :=
  p (parameter "fill" color) ∧ p (parameter "stroke" color)

def HoldsOfOpacity (p : XmlNode → Prop) (opacity : Float) : Prop :=
  p (parameter "fill-opacity" (number opacity)) ∧ p (parameter "stroke-opacity" (number opacity))

section parts

variable {p : XmlNode → Prop}

theorem forall_mem_given {α : Type} {q : α → Prop} {xs : List (Option α)} :
    (∀ a ∈ xs.filterMap id, q a) ↔ ∀ x ∈ xs, ∀ a ∈ x, q a := by
  simp only [List.mem_filterMap, id]
  exact ⟨fun h x hx a ha => h a ⟨x, hx, ha⟩, fun h a ⟨x, hx, ha⟩ => h x hx a ha⟩

theorem each_optional {α : Type} {x : Option α} {node : α → XmlNode}
    (h : ∀ a ∈ x, (node a).Each p) : ∀ e ∈ (x.map node).toList, e.Each p := by
  cases x with
  | none => nofun
  | some a => simpa using h a rfl

theorem each_parameter {name value : String} (h : p (parameter name value)) :
    (parameter name value).Each p := by
  simpa [parameter] using h

theorem each_textParameter? {name : String} {s : Option String}
    (h : ∀ v ∈ s, p (parameter name v)) : ∀ e ∈ textParameter? name s, e.Each p :=
  each_optional fun v hv => each_parameter (h v hv)

theorem each_numberParameter? {name : String} {x : Option Float}
    (h : ∀ v ∈ x, p (parameter name (number v))) : ∀ e ∈ numberParameter? name x, e.Each p :=
  each_optional fun v hv => each_parameter (h v hv)

namespace HoldsOfFrame

variable (f : HoldsOfFrame p)

include f

theorem each_element {name : String} {children : List XmlNode} (known : (name, []) ∈ frameTags)
    (inner : ∀ c ∈ children, c.Each p) : (element name [] children).Each p :=
  XmlNode.each_element.2 ⟨f.frame _ known children, inner⟩

theorem each_leaf {name : String} (known : (name, []) ∈ frameTags) (s : String) :
    (leaf name s).Each p :=
  f.each_element known (by simp)

theorem each_fill? {color : Option String} {opacity : Option Float}
    (colors : ∀ c ∈ color, HoldsOfColor p c) (opacities : ∀ x ∈ opacity, HoldsOfOpacity p x) :
    ∀ e ∈ fill? color opacity, e.Each p := by
  intro e he
  unfold fill? at he
  split at he
  · cases he
  · obtain rfl := List.mem_singleton.1 he
    apply f.each_element (by decide)
    intro c hc
    rcases List.mem_append.1 hc with hc | hc
    · exact each_textParameter? (fun v hv => (colors v hv).1) c hc
    · exact each_numberParameter? (fun x hx => (opacities x hx).1) c hc

theorem each_stroke {color : String} {width opacity : Option Float}
    (colors : HoldsOfColor p color) (opacities : ∀ x ∈ opacity, HoldsOfOpacity p x) :
    (stroke color width opacity).Each p := by
  apply f.each_element (by decide)
  intro c hc
  rcases List.mem_cons.1 hc with rfl | hc
  · exact each_parameter colors.2
  · rcases List.mem_append.1 hc with hc | hc
    · exact each_numberParameter? (fun x _ => f.plain _ (by decide) _) c hc
    · exact each_numberParameter? (fun x hx => (opacities x hx).2) c hc

theorem each_label (s : String) : (label s).Each p := by
  apply f.each_element (by decide)
  intro c hc
  split at hc
  · obtain ⟨piece, -, rfl⟩ := List.mem_map.1 hc
    cases piece with
    | text s => exact each_text _
    | column name => exact f.each_leaf (by decide) _
  · obtain rfl := List.mem_singleton.1 hc
    exact f.each_leaf (by decide) s

theorem each_font? (s : TextSymbolizer) : ∀ e ∈ font? s, e.Each p := by
  intro e he
  unfold font? at he
  split at he
  · cases he
  · obtain rfl := List.mem_singleton.1 he
    apply f.each_element (by decide)
    intro c hc
    rcases List.mem_append.1 hc with hc | hc
    · exact each_textParameter? (fun v _ => f.plain _ (by decide) v) c hc
    · exact each_numberParameter? (fun x _ => f.plain _ (by decide) _) c hc

theorem each_polygonSymbolizer {s : FillSymbolizer}
    (colors : ∀ c ∈ (Symbolizer.fill s).colors, HoldsOfColor p c)
    (opacities : ∀ x ∈ (Symbolizer.fill s).opacities, HoldsOfOpacity p x) :
    (polygonSymbolizer s).Each p := by
  simp only [Symbolizer.colors, Symbolizer.opacities, forall_mem_given, List.forall_mem_cons]
    at colors opacities
  obtain ⟨color, outlineColor, -⟩ := colors
  obtain ⟨opacity, fillOpacity, outlineOpacity, -⟩ := opacities
  apply f.each_element (by decide)
  intro c hc
  rcases List.mem_append.1 hc with hc | hc
  · refine f.each_fill? color (fun x hx => ?_) c hc
    rcases Option.or_eq_some_iff.1 hx with hx | ⟨-, hx⟩
    · exact fillOpacity x hx
    · exact opacity x hx
  · exact each_optional (fun v hv => f.each_stroke (outlineColor v hv) outlineOpacity) c hc

theorem each_lineSymbolizer {s : LineSymbolizer}
    (colors : ∀ c ∈ (Symbolizer.line s).colors, HoldsOfColor p c)
    (opacities : ∀ x ∈ (Symbolizer.line s).opacities, HoldsOfOpacity p x) :
    (lineSymbolizer s).Each p := by
  simp only [Symbolizer.colors, Symbolizer.opacities, forall_mem_given, List.forall_mem_cons]
    at colors opacities
  obtain ⟨color, -⟩ := colors
  obtain ⟨opacity, -⟩ := opacities
  refine f.each_element (by decide) (List.forall_mem_singleton.2 (f.each_element (by decide) ?_))
  intro c hc
  simp only [List.mem_append] at hc
  rcases hc with ((hc | hc) | hc) | hc
  · exact each_textParameter? (fun v hv => (color v hv).2) c hc
  · exact each_numberParameter? (fun x _ => f.plain _ (by decide) _) c hc
  · exact each_numberParameter? (fun x hx => (opacity x hx).2) c hc
  · exact each_textParameter? (fun v _ => f.plain _ (by decide) v) c hc

theorem each_pointSymbolizer {s : MarkSymbolizer}
    (colors : ∀ c ∈ (Symbolizer.mark s).colors, HoldsOfColor p c)
    (opacities : ∀ x ∈ (Symbolizer.mark s).opacities, HoldsOfOpacity p x) :
    (pointSymbolizer s).Each p := by
  simp only [Symbolizer.colors, Symbolizer.opacities, forall_mem_given, List.forall_mem_cons]
    at colors opacities
  obtain ⟨color, strokeColor, -⟩ := colors
  obtain ⟨opacity, strokeOpacity, -⟩ := opacities
  refine f.each_element (by decide) (List.forall_mem_singleton.2 (f.each_element (by decide) ?_))
  refine List.forall_mem_cons.2 ⟨f.each_element (by decide) ?_,
    each_optional fun _ _ => f.each_leaf (by decide) _⟩
  intro c hc
  simp only [List.mem_append] at hc
  rcases hc with (hc | hc) | hc
  · exact each_optional (fun _ _ => f.each_leaf (by decide) _) c hc
  · exact f.each_fill? color opacity c hc
  · exact each_optional (fun v hv => f.each_stroke (strokeColor v hv) strokeOpacity) c hc

theorem each_halo? {s : TextSymbolizer} (colors : ∀ c ∈ s.haloColor, HoldsOfColor p c)
    (opacities : ∀ x ∈ s.haloOpacity, HoldsOfOpacity p x) : ∀ e ∈ halo? s, e.Each p := by
  refine each_optional fun v hv => f.each_element (by decide) ?_
  intro c hc
  rcases List.mem_append.1 hc with hc | hc
  · exact each_optional (fun _ _ => f.each_leaf (by decide) _) c hc
  · refine f.each_fill? ?_ opacities c hc
    rintro _ ⟨⟩
    exact colors v hv

theorem each_textSymbolizer {s : TextSymbolizer}
    (colors : ∀ c ∈ (Symbolizer.text s).colors, HoldsOfColor p c)
    (opacities : ∀ x ∈ (Symbolizer.text s).opacities, HoldsOfOpacity p x) :
    (textSymbolizer s).Each p := by
  simp only [Symbolizer.colors, Symbolizer.opacities, forall_mem_given, List.forall_mem_cons]
    at colors opacities
  obtain ⟨color, haloColor, -⟩ := colors
  obtain ⟨opacity, haloOpacity, -⟩ := opacities
  apply f.each_element (by decide)
  intro c hc
  simp only [List.mem_append] at hc
  rcases hc with ((hc | hc) | hc) | hc
  · exact each_optional (fun v _ => f.each_label v) c hc
  · exact f.each_font? s c hc
  · exact f.each_halo? haloColor haloOpacity c hc
  · exact f.each_fill? color opacity c hc

theorem each_symbolizer? {s : Symbolizer} {e : XmlNode} (drawn : symbolizer? s = some e)
    (colors : ∀ c ∈ s.colors, HoldsOfColor p c)
    (opacities : ∀ x ∈ s.opacities, HoldsOfOpacity p x) : e.Each p := by
  cases s with
  | fill s =>
    obtain rfl := Option.some.inj drawn
    exact f.each_polygonSymbolizer colors opacities
  | line s =>
    obtain rfl := Option.some.inj drawn
    exact f.each_lineSymbolizer colors opacities
  | mark s =>
    obtain rfl := Option.some.inj drawn
    exact f.each_pointSymbolizer colors opacities
  | text s =>
    obtain rfl := Option.some.inj drawn
    exact f.each_textSymbolizer colors opacities
  | icon members => cases drawn
  | raster members => cases drawn

end HoldsOfFrame

mutual

theorem HoldsOfFrame.each_filter (f : HoldsOfFrame p) (filter : StyleFilter) :
    (Sld.filter filter).Each p := by
  cases filter with
  | comparison operator property value =>
    have known : (comparisonName operator, comparisonAttributes operator) ∈ frameTags := by
      cases operator <;> decide
    rw [Sld.filter]
    refine XmlNode.each_element.2 ⟨f.frame _ known _, ?_⟩
    refine List.forall_mem_cons.2 ⟨f.each_leaf (by decide) _, ?_⟩
    exact List.forall_mem_singleton.2 (f.each_leaf (by decide) _)
  | and fs =>
    rw [Sld.filter]
    exact f.each_element (by decide) (f.each_filters fs)
  | or fs =>
    rw [Sld.filter]
    exact f.each_element (by decide) (f.each_filters fs)
  | not g =>
    rw [Sld.filter]
    exact f.each_element (by decide) (List.forall_mem_singleton.2 (f.each_filter g))

theorem HoldsOfFrame.each_filters (f : HoldsOfFrame p) (fs : List StyleFilter) :
    ∀ e ∈ filters fs, e.Each p := by
  cases fs with
  | nil => nofun
  | cons g fs =>
    rw [filters]
    exact List.forall_mem_cons.2 ⟨f.each_filter g, f.each_filters fs⟩

end

namespace HoldsOfFrame

variable (f : HoldsOfFrame p)

include f

theorem each_rule {r : StyleRule} (top : p (rule r))
    (colors : ∀ s ∈ r.symbolizers, ∀ c ∈ s.colors, HoldsOfColor p c)
    (opacities : ∀ s ∈ r.symbolizers, ∀ x ∈ s.opacities, HoldsOfOpacity p x) : (rule r).Each p := by
  refine XmlNode.each_element.2 ⟨top, List.forall_mem_cons.2 ⟨f.each_leaf (by decide) _, ?_⟩⟩
  intro c hc
  simp only [List.mem_append] at hc
  rcases hc with (hc | hc) | hc
  · refine each_optional (fun g _ => f.each_element (by decide) ?_) c hc
    exact List.forall_mem_singleton.2 (f.each_filter g)
  · cases range : r.scale with
    | none => simp [range] at hc
    | some range' =>
      simp only [range, Option.map_some, Option.getD_some, scale, List.mem_append] at hc
      rcases hc with hc | hc
      · exact each_optional (fun _ _ => f.each_leaf (by decide) _) c hc
      · exact each_optional (fun _ _ => f.each_leaf (by decide) _) c hc
  · obtain ⟨s, hs, drawn⟩ := List.mem_filterMap.1 hc
    exact f.each_symbolizer? drawn (colors s hs) (opacities s hs)

/-- What holds of the parts of a document holds of all its elements. -/
theorem each_document (layer : String) {style : Style} (rules : ∀ r ∈ style.rules, p (rule r))
    (colors : ∀ r ∈ style.rules, ∀ s ∈ r.symbolizers, ∀ c ∈ s.colors, HoldsOfColor p c)
    (opacities : ∀ r ∈ style.rules, ∀ s ∈ r.symbolizers, ∀ x ∈ s.opacities, HoldsOfOpacity p x) :
    (document layer style).Each p := by
  have inner : ∀ e ∈ style.rules.map rule, e.Each p := by
    intro e he
    obtain ⟨r, hr, rfl⟩ := List.mem_map.1 he
    exact f.each_rule (rules r hr) (colors r hr) (opacities r hr)
  have root := f.frame (_, _) (List.mem_append_left _ List.mem_cons_self)
  refine XmlNode.each_element.2 ⟨root _, List.forall_mem_singleton.2 ?_⟩
  refine f.each_element (by decide) (List.forall_mem_cons.2 ⟨f.each_leaf (by decide) _, ?_⟩)
  refine List.forall_mem_singleton.2 (f.each_element (by decide) ?_)
  refine List.forall_mem_cons.2 ⟨f.each_leaf (by decide) _, List.forall_mem_cons.2 ?_⟩
  exact ⟨f.each_leaf (by decide) _, List.forall_mem_singleton.2 (f.each_element (by decide) inner)⟩

end HoldsOfFrame

end parts

/-- The tags of the document of any style. -/
def tags : List (String × List (String × String)) :=
  frameTags ++ ("Rule", []) :: (plainParameters ++ ["fill", "stroke", "fill-opacity",
    "stroke-opacity"]).map fun name => ("CssParameter", [("name", name)])

theorem holdsOfFrame_tags : HoldsOfFrame (HasTag (· ∈ tags)) := by
  constructor
  · rintro tag member children _ ⟨⟩
    exact List.mem_append_left _ member
  · rintro name member value _ ⟨⟩
    refine List.mem_append_right _ (List.mem_cons_of_mem _ ?_)
    exact List.mem_map_of_mem (List.mem_append_left _ member)

theorem hasTag_parameter {name : String} (value : String)
    (member : ("CssParameter", [("name", name)]) ∈ tags) :
    HasTag (· ∈ tags) (parameter name value) := by
  rintro _ ⟨⟩
  exact member

theorem each_tags (layer : String) (style : Style) :
    (document layer style).Each (HasTag (· ∈ tags)) := by
  apply holdsOfFrame_tags.each_document
  · rintro r - _ ⟨⟩
    decide
  · intro r _ s _ color _
    exact ⟨hasTag_parameter _ (by decide), hasTag_parameter _ (by decide)⟩
  · intro r _ s _ opacity _
    exact ⟨hasTag_parameter _ (by decide), hasTag_parameter _ (by decide)⟩

/-- A document is read as it is written. -/
theorem tree?_write (layer : String) (style : Style) :
    Xml.tree? (write layer style) = some (document layer style).normal := by
  have proper : ∀ tag ∈ tags, IsTag tag := by decide +kernel
  refine Xml.tree?_render ((each_tags layer style).imp ?_) fun s => ?_
  · exact fun e known tag ht => proper tag (known tag ht)
  · exact Xml.Draft.read?_eq _ (Xml.Draft.next?_markup _ _) rfl

end MapLayer.Sld
