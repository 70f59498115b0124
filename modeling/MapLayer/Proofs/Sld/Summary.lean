import MapLayer.Proofs.Decimal.Distinct
import MapLayer.Proofs.Sld.Drawn

/-!
What a document tells of its style. Main statement: a reader of its text finds the names, the rules in
order, and in each rule its bounds, its filter and its symbolizers.
-/

namespace MapLayer

namespace Sld

open XmlNode

section filter

def comparisonOf? : String → Option Comparison
  | "ogc:PropertyIsEqualTo" => some .equal
  | "ogc:PropertyIsNotEqualTo" => some .notEqual
  | "ogc:PropertyIsLessThan" => some .less
  | "ogc:PropertyIsLessThanOrEqualTo" => some .lessOrEqual
  | "ogc:PropertyIsGreaterThan" => some .greater
  | "ogc:PropertyIsGreaterThanOrEqualTo" => some .greaterOrEqual
  | "ogc:PropertyIsLike" => some .like
  | _ => none

mutual

/-- The filter that an element tells, with its literals as texts. -/
def readFilter? : XmlNode → Option StyleFilter
  | text _ => none
  | element "ogc:And" _ children => (readFilters? children).map .and
  | element "ogc:Or" _ children => (readFilters? children).map .or
  | element "ogc:Not" _ children => (readFilters? children).bind fun
    | [f] => some (.not f)
    | _ => none
  | element name _ [property, value] => do
    return .comparison (← comparisonOf? name) (← property.told? "ogc:PropertyName")
      (.string (← value.told? "ogc:Literal"))
  | element .. => none

def readFilters? : List XmlNode → Option (List StyleFilter)
  | [] => some []
  | node :: nodes => do
    let f ← readFilter? node
    return f :: (← readFilters? nodes)

end

mutual

/-- A filter with the texts of its values. A text stands for itself, any other value for its JSON. -/
def inTexts : StyleFilter → StyleFilter
  | .comparison operator property (.string s) => .comparison operator property (.string s)
  | .comparison operator property value => .comparison operator property (.string value.text)
  | .and fs => .and (allInTexts fs)
  | .or fs => .or (allInTexts fs)
  | .not f => .not (inTexts f)

def allInTexts : List StyleFilter → List StyleFilter
  | [] => []
  | f :: fs => inTexts f :: allInTexts fs

end

theorem isElement_filter (f : StyleFilter) : (filter f).isElement = true := by
  cases f <;> rw [filter] <;> rfl

theorem isElement_filters (fs : List StyleFilter) : ∀ e ∈ filters fs, e.isElement = true := by
  induction fs with
  | nil => nofun
  | cons f fs ih =>
    rw [filters]
    exact List.forall_mem_cons.2 ⟨isElement_filter f, ih⟩

theorem inTexts_comparison (operator : Comparison) (property : String) (value : Json) :
    inTexts (.comparison operator property value)
      = .comparison operator property (.string (literal value)) := by
  cases value <;> rfl

theorem readFilter?_comparison {property value : XmlNode} {p s : String}
    (left : property.told? "ogc:PropertyName" = some p) (right : value.told? "ogc:Literal" = some s)
    (operator : Comparison) (attributes : List (String × String)) :
    readFilter? (element (comparisonName operator) attributes [property, value])
      = some (.comparison operator p (.string s)) := by
  cases operator <;> simp [comparisonName, readFilter?, comparisonOf?, left, right]

mutual

theorem readFilter?_filter (f : StyleFilter) : readFilter? (filter f).normal = some (inTexts f) := by
  cases f with
  | comparison operator property value =>
    have parts : ∀ c ∈ [leaf "ogc:PropertyName" property, leaf "ogc:Literal" (literal value)],
        c.isElement = true := by simp [leaf, isElement]
    rw [filter, normal_element parts, inTexts_comparison]
    exact readFilter?_comparison (told?_leaf _) (told?_leaf _) operator _
  | and fs =>
    rw [filter, normal_element (isElement_filters fs), readFilter?, readFilters?_filters fs, inTexts]
    rfl
  | or fs =>
    rw [filter, normal_element (isElement_filters fs), readFilter?, readFilters?_filters fs, inTexts]
    rfl
  | not f =>
    rw [filter, normal_element (List.forall_mem_singleton.2 (isElement_filter f)), readFilter?]
    simp [readFilters?, readFilter?_filter f, inTexts]

theorem readFilters?_filters (fs : List StyleFilter) :
    readFilters? ((filters fs).map normal) = some (allInTexts fs) := by
  cases fs with
  | nil => rfl
  | cons f fs =>
    rw [filters, List.map_cons, readFilters?, readFilter?_filter f, readFilters?_filters fs]
    rfl

end

end filter

/-- What a document tells of a rule. -/
structure RuleSummary where
  name : String
  min : Option String
  max : Option String
  filter : Option StyleFilter
  symbolizers : List SymbolizerSummary

/-- What a document tells of a style. -/
structure StyleSummary where
  layer : String
  name : String
  title : String
  rules : List RuleSummary

section reading

/-- What is read from the only node of a list, which may also be empty. -/
def readOptional? {α : Type} (read : XmlNode → Option α) : List XmlNode → Option (Option α)
  | [] => some none
  | [node] => (read node).map some
  | _ => none

def readOnlyFilter? (e : XmlNode) : Option StyleFilter :=
  match e.inside? "ogc:Filter" with
  | some [f] => readFilter? f
  | _ => none

/-- The children of rules that are not symbolizers. -/
def ruleParts : List String := ["Name", "ogc:Filter", "MinScaleDenominator", "MaxScaleDenominator"]

def readRule? (e : XmlNode) : Option RuleSummary := do
  let children ← e.inside? "Rule"
  let [name] := named "Name" children | none
  return {
    name := ← name.told? "Name"
    min := ← readOptional? (·.told? "MinScaleDenominator") (named "MinScaleDenominator" children)
    max := ← readOptional? (·.told? "MaxScaleDenominator") (named "MaxScaleDenominator" children)
    filter := ← readOptional? readOnlyFilter? (named "ogc:Filter" children)
    symbolizers := ← readSymbolizers? (children.filter fun c => !ruleParts.any (c.isNamed ·)) }

def readRules? : List XmlNode → Option (List RuleSummary)
  | [] => some []
  | node :: nodes => do
    let r ← readRule? node
    return r :: (← readRules? nodes)

def readStyle? : XmlNode → Option StyleSummary
  | element "StyledLayerDescriptor" _ [element "NamedLayer" _ [layer,
      element "UserStyle" _ [name, title, element "FeatureTypeStyle" _ rules]]] => do
    return {
      layer := ← layer.told? "Name"
      name := ← name.told? "Name"
      title := ← title.told? "Title"
      rules := ← readRules? rules }
  | _ => none

end reading

def summaryOfRule (r : StyleRule) : RuleSummary where
  name := r.name
  min := (r.scale.bind (·.min)).map number
  max := (r.scale.bind (·.max)).map number
  filter := r.filter.map inTexts
  symbolizers := r.symbolizers.filterMap summaryOfSymbolizer?

def summaryOf (layer : String) (style : Style) : StyleSummary :=
  ⟨layer, style.name, style.name, style.rules.map summaryOfRule⟩

section rule

variable {α β : Type} {x : Option α} {node : α → XmlNode} {name : String}

theorem readOptional?_optional {read : XmlNode → Option β} {value : α → β}
    (found : ∀ a, read (node a).normal = some (value a)) :
    readOptional? read ((x.map node).toList.map normal) = some (x.map value) := by
  cases x with
  | none => rfl
  | some a => simp [readOptional?, found a]

theorem isElement_optional (h : ∀ a, (node a).isElement = true) :
    ∀ c ∈ (x.map node).toList, c.isElement = true := by
  cases x with
  | none => nofun
  | some a => simpa using h a

def symbolizerTags : List String :=
  ["PolygonSymbolizer", "LineSymbolizer", "PointSymbolizer", "TextSymbolizer"]

theorem symbolizer?_eq {s : Symbolizer} {e : XmlNode} (drawn : symbolizer? s = some e) :
    ∃ name ∈ symbolizerTags, ∃ children, e = element name [] children := by
  cases s with
  | fill s => exact ⟨_, by decide, _, (Option.some.inj drawn).symm⟩
  | line s => exact ⟨_, by decide, _, (Option.some.inj drawn).symm⟩
  | mark s => exact ⟨_, by decide, _, (Option.some.inj drawn).symm⟩
  | text s => exact ⟨_, by decide, _, (Option.some.inj drawn).symm⟩
  | icon members => cases drawn
  | raster members => cases drawn

theorem isNamed_symbolizer {symbolizers : List Symbolizer} {e : XmlNode}
    (member : e ∈ symbolizers.filterMap symbolizer?) (part : name ∈ ruleParts) :
    e.isNamed name = false := by
  obtain ⟨s, -, drawn⟩ := List.mem_filterMap.1 member
  obtain ⟨other, known, children, rfl⟩ := symbolizer?_eq drawn
  have apart : ∀ n ∈ ruleParts, ∀ m ∈ symbolizerTags, m ≠ n := by decide
  simp [apart name part other known]

def ruleChildren (r : StyleRule) : List XmlNode :=
  leaf "Name" r.name :: (r.filter.map fun f => element "ogc:Filter" [] [filter f]).toList
    ++ ((r.scale.bind (·.min)).map fun x => leaf "MinScaleDenominator" (number x)).toList
    ++ ((r.scale.bind (·.max)).map fun x => leaf "MaxScaleDenominator" (number x)).toList
    ++ r.symbolizers.filterMap symbolizer?

theorem normal_rule (r : StyleRule) :
    (rule r).normal = element "Rule" [] ((ruleChildren r).map normal) := by
  have same : rule r = element "Rule" [] (ruleChildren r) := by
    cases range : r.scale <;> simp [rule, ruleChildren, scale, range]
  rw [same]
  apply normal_element
  intro c hc
  simp only [ruleChildren, List.mem_append, List.mem_cons] at hc
  rcases hc with (((rfl | hc) | hc) | hc) | hc
  · rfl
  · exact isElement_optional (fun f => rfl) c hc
  · exact isElement_optional (fun x => rfl) c hc
  · exact isElement_optional (fun x => rfl) c hc
  · obtain ⟨s, -, drawn⟩ := List.mem_filterMap.1 hc
    obtain ⟨name, -, children, rfl⟩ := symbolizer?_eq drawn
    rfl

theorem named_children (r : StyleRule) (part : name ∈ ruleParts) :
    named name ((ruleChildren r).map normal)
      = ((if "Name" = name then [leaf "Name" r.name] else [])
        ++ (if "ogc:Filter" = name then
          (r.filter.map fun f => element "ogc:Filter" [] [filter f]).toList else [])
        ++ (if "MinScaleDenominator" = name then
          ((r.scale.bind (·.min)).map fun x => leaf "MinScaleDenominator" (number x)).toList else [])
        ++ (if "MaxScaleDenominator" = name then
          ((r.scale.bind (·.max)).map fun x => leaf "MaxScaleDenominator" (number x)).toList
          else [])).map normal := by
  have drawn : named name (r.symbolizers.filterMap symbolizer?) = [] := by
    rw [named, List.filter_eq_nil_iff]
    intro e he
    simp [isNamed_symbolizer he part]
  have optional {α : Type} (x : Option α) (other : String) (children : α → List XmlNode) :
      named name (x.map fun a => element other [] (children a)).toList
        = if other = name then (x.map fun a => element other [] (children a)).toList else [] := by
    cases x <;> simp [named, List.filter_cons]
  rw [named_map_normal]
  refine congrArg (List.map normal) ?_
  -- only the names of the parts matter from here on
  unfold ruleChildren leaf
  generalize r.scale.bind (·.min) = low, r.scale.bind (·.max) = high
  rw [named] at drawn
  simp only [named, List.filter_append, List.filter_cons] at optional ⊢
  by_cases first : "Name" = name <;> simp [optional, drawn, first]

theorem others_ruleChildren (r : StyleRule) :
    ((ruleChildren r).map normal).filter (fun c => !ruleParts.any (c.isNamed ·))
      = (r.symbolizers.filterMap symbolizer?).map normal := by
  have drawn : (r.symbolizers.filterMap symbolizer?).filter (fun c => !ruleParts.any (c.isNamed ·))
      = r.symbolizers.filterMap symbolizer? := by
    rw [List.filter_eq_self]
    intro e he
    simp only [Bool.not_eq_true', List.any_eq_false]
    intro name part
    simp [isNamed_symbolizer he part]
  have optional {α : Type} (x : Option α) {other : String} (part : other ∈ ruleParts)
      (children : α → List XmlNode) : (x.map fun a => element other [] (children a)).toList.filter
        (fun c => !ruleParts.any (c.isNamed ·)) = [] := by
    cases x <;> simp [part]
  have low := optional (r.scale.bind (·.min)) (show "MinScaleDenominator" ∈ ruleParts by decide)
  have high := optional (r.scale.bind (·.max)) (show "MaxScaleDenominator" ∈ ruleParts by decide)
  have chosen := optional r.filter (show "ogc:Filter" ∈ ruleParts by decide)
  have named := optional (some r) (show "Name" ∈ ruleParts by decide) fun r => [text r.name]
  simp only [List.filter_map, Function.comp_def, isNamed_normal]
  rw [ruleChildren, ← List.singleton_append]
  simp only [List.filter_append, drawn, leaf]
  simp only [low, high, chosen]
  exact congrArg _ (congrArg (· ++ _) named)

theorem readOnlyFilter?_filter (f : StyleFilter) :
    readOnlyFilter? (element "ogc:Filter" [] [filter f]).normal = some (inTexts f) := by
  rw [normal_element (List.forall_mem_singleton.2 (isElement_filter f)), readOnlyFilter?]
  exact readFilter?_filter f

theorem named_low (r : StyleRule) : named "MinScaleDenominator" ((ruleChildren r).map normal)
    = ((r.scale.bind (·.min)).map fun x => leaf "MinScaleDenominator" (number x)).toList.map normal :=
  (named_children r (by decide)).trans (by simp)

theorem named_high (r : StyleRule) : named "MaxScaleDenominator" ((ruleChildren r).map normal)
    = ((r.scale.bind (·.max)).map fun x => leaf "MaxScaleDenominator" (number x)).toList.map normal :=
  named_children r (by decide)

theorem readRule?_rule (r : StyleRule) : readRule? (rule r).normal = some (summaryOfRule r) := by
  have name : named "Name" ((ruleChildren r).map normal) = [(leaf "Name" r.name).normal] :=
    named_children r (by decide)
  have chosen : named "ogc:Filter" ((ruleChildren r).map normal)
      = (r.filter.map fun f => element "ogc:Filter" [] [filter f]).toList.map normal :=
    (named_children r (by decide)).trans (by simp)
  rw [normal_rule, readRule?]
  simp only [inside?_element, if_true, Option.bind_eq_bind, Option.bind_some, name, told?_leaf]
  rw [named_low, named_high, chosen, readOptional?_optional fun _ => told?_leaf _,
    readOptional?_optional fun _ => told?_leaf _, readOptional?_optional readOnlyFilter?_filter,
    others_ruleChildren, readSymbolizers?_symbolizers]
  rfl

theorem readRules?_rules (rules : List StyleRule) :
    readRules? ((rules.map rule).map normal) = some (rules.map summaryOfRule) := by
  induction rules with
  | nil => rfl
  | cons r rules ih =>
    rw [List.map_cons, List.map_cons, readRules?, readRule?_rule, ih]
    rfl

theorem normal_document (layer : String) (style : Style) :
    (document layer style).normal = element "StyledLayerDescriptor"
      [("version", "1.0.0"), ("xmlns", "http://www.opengis.net/sld"),
        ("xmlns:ogc", "http://www.opengis.net/ogc"),
        ("xmlns:xlink", "http://www.w3.org/1999/xlink")]
      [element "NamedLayer" [] [(leaf "Name" layer).normal,
        element "UserStyle" [] [(leaf "Name" style.name).normal, (leaf "Title" style.name).normal,
          element "FeatureTypeStyle" [] ((style.rules.map rule).map normal)]]] := by
  have rules : ∀ c ∈ style.rules.map rule, c.isElement = true := by
    intro c hc
    obtain ⟨r, -, rfl⟩ := List.mem_map.1 hc
    rfl
  rw [document, normal_element (by simp [isElement]), List.map_singleton,
    normal_element (by simp [leaf, isElement]), List.map_cons, List.map_singleton,
    normal_element (by simp [leaf, isElement]), List.map_cons, List.map_cons, List.map_singleton,
    normal_element rules]

theorem readStyle?_document (layer : String) (style : Style) :
    readStyle? (document layer style).normal = some (summaryOf layer style) := by
  rw [normal_document]
  simp only [readStyle?, told?_leaf, readRules?_rules, Option.bind_eq_bind, Option.bind_some]
  rfl

end rule

theorem number_injective : Function.Injective number :=
  fun _ _ same => Decimal.plain_injective (String.ofList_injective same)

/-- The text of a document is read as one tree, which tells the style. All tags in it are those of documents.
Numbers are told by their texts, which are different for different numbers, and labels in the parts that they
say. -/
theorem readStyle?_write (layer : String) (style : Style) :
    (∃ t, Xml.tree? (write layer style) = some t
      ∧ readStyle? t = some (summaryOf layer style) ∧ t.Each (HasTag (· ∈ tags)))
    ∧ Function.Injective number
    ∧ ∀ label ps, LabelPiece.Says label ps ↔ ps = summaryOfLabel (String.ofList label) := by
  refine ⟨⟨_, tree?_write layer style, readStyle?_document layer style, ?_⟩, number_injective,
    fun _ _ => says_iff⟩
  exact each_normal (fun e known => by cases e <;> exact known) _ (each_tags layer style)

def plots : Style where
  name := "plots & more"
  rules := [{
    name := "near <"
    filter := some (.and [.not (.comparison .like "name" (.string "\"x>\"")),
      .comparison .less "depth" (.array [.null])])
    scale := some ⟨some 500.0, none⟩
    symbolizers := [
      .fill { color := some "#2e8b57", opacity := some 0.5, fillOpacity := some 0.25,
              outlineColor := some "#000000", outlineWidth := some 2.0 },
      .line { color := some "#123abc", dasharray := some [4.0, 2.5] },
      .icon {},
      .mark { wellKnownName := some "circle", radius := some 4.0 },
      .text { label := some "Site \x7b\x7b name \x7d\x7d", font := some ["Noto", "Arial"],
              haloColor := some "#ffffff", haloWidth := some 1.0 }] }]

theorem readStyle?_write_plots : ∃ t, Xml.tree? (write "cadastre" plots) = some t
    ∧ readStyle? t = some ⟨"cadastre", "plots & more", "plots & more", [{
        name := "near <"
        min := some "500"
        max := none
        filter := some (.and [.not (.comparison .like "name" (.string "\"x>\"")),
          .comparison .less "depth" (.string "[null]")])
        symbolizers := [
          .polygon (some ⟨some "#2e8b57", some "0.25"⟩) (some ⟨some "#000000", some "2", none, none⟩),
          .line ⟨some "#123abc", none, none, some ["4", "2.5"]⟩,
          .point ⟨some "circle", none, none⟩ (some "8"),
          .text (some [.text "Site ".toList, .column "name".toList]) (some ⟨some "Noto,Arial", none⟩)
            (some ⟨some "1", ⟨some "#ffffff", none⟩⟩) none] }]⟩
    ∧ t.Each (HasTag (· ∈ tags)) := by
  obtain ⟨t, read, told, known⟩ := (readStyle?_write "cadastre" plots).1
  refine ⟨t, read, told.trans ?_, known⟩
  have drawn : (plots.rules.flatMap (·.symbolizers)).filterMap summaryOfSymbolizer? = [
      .polygon (some ⟨some "#2e8b57", some "0.25"⟩) (some ⟨some "#000000", some "2", none, none⟩),
      .line ⟨some "#123abc", none, none, some ["4", "2.5"]⟩,
      .point ⟨some "circle", none, none⟩ (some "8"),
      .text (some [.text "Site ".toList, .column "name".toList]) (some ⟨some "Noto,Arial", none⟩)
        (some ⟨some "1", ⟨some "#ffffff", none⟩⟩) none] := by
    decide +kernel
  have low : number 500.0 = "500" := by decide +kernel
  have value : (Json.array [.null]).text = "[null]" := by decide +kernel
  simp only [plots, List.flatMap_singleton] at drawn
  simp only [summaryOf, summaryOfRule, plots, List.map_singleton, drawn, Option.bind_some, Option.map_some,
    low, inTexts, allInTexts, value]
  rfl

end Sld

end MapLayer
