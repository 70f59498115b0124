import MapLayer.Proofs.Geometry.Wkt
import MapLayer.Proofs.Sld.Label
import MapLayer.Proofs.Sld.Reader
import MapLayer.Proofs.Text.Joined

/-!
What the elements of symbolizers tell. Main statement: their colours, texts and numbers are those of the
symbolizers, in their order.
-/

namespace MapLayer

open MapLayer.Text (append_of_cut? cut? cut?_eq_none_iff join join_cons join_eq_intercalate occursIn
  pieces_join trim)

namespace LabelPiece

/-- A part as it is told, with the name of a column without the white space around it. -/
def told : LabelPiece → LabelPiece
  | text s => text s
  | column name => column (trim name)

/-- The parts that a label is told in: those of a template, or the column of that name. -/
inductive Says (s : List Char) : List LabelPiece → Prop
  | template {before after : List Char} {ps : List LabelPiece} (opens : s = before ++ opening ++ after)
    (parts : Scanned s ps) : Says s (ps.map told)
  | column (plain : ∀ before after, s ≠ before ++ opening ++ after) : Says s [column s]

end LabelPiece

namespace Sld

open XmlNode

section summary

/-- A filling is told if it has a colour or an opacity. -/
def summaryOfFill (color : Option String) (opacity : Option Float) : Option FillSummary :=
  if color.isSome || opacity.isSome then some ⟨color, opacity.map number⟩ else none

def summaryOfOutline (color : Option String) (width opacity : Option Float) : Option StrokeSummary :=
  color.map fun c => ⟨some c, width.map number, opacity.map number, none⟩

def summaryOfLabel (s : String) : List LabelPiece :=
  if LabelPiece.isTemplate s.toList then (LabelPiece.pieces s.toList).map LabelPiece.told
  else [.column s.toList]

def summaryOfFont (names : Option (List String)) (size : Option Float) : Option FontSummary :=
  if names.isSome || size.isSome then
    some ⟨names.map fun names => ",".intercalate names, size.map number⟩
  else none

/-- What is told of a symbolizer. The opacity of a filling alone comes before that of the whole symbolizer,
marks are sized by their diameter, and icons and rasters are not told of. -/
def summaryOfSymbolizer? : Symbolizer → Option SymbolizerSummary
  | .fill s => some (.polygon (summaryOfFill s.color (s.fillOpacity.or s.opacity))
      (summaryOfOutline s.outlineColor s.outlineWidth s.outlineOpacity))
  | .line s => some (.line ⟨s.color, s.width.map number, s.opacity.map number,
      s.dasharray.map fun dashes => dashes.map number⟩)
  | .mark s => some (.point ⟨s.wellKnownName, summaryOfFill s.color s.opacity,
      summaryOfOutline s.strokeColor s.strokeWidth s.strokeOpacity⟩
      (s.radius.map fun r => number (r * 2.0)))
  | .text s => some (.text (s.label.map summaryOfLabel) (summaryOfFont s.font s.size)
      (s.haloColor.map fun c => ⟨s.haloWidth.map number, ⟨some c, s.haloOpacity.map number⟩⟩)
      (summaryOfFill s.color s.opacity))
  | .icon _ | .raster _ => none

end summary

section symbolizers

variable {rest : List XmlNode}

theorem numberParameter?_eq (name : String) (x : Option Float) :
    numberParameter? name x = textParameter? name (x.map number) := by
  rw [numberParameter?, textParameter?, Option.map_map]
  rfl

theorem readDashes_number (dashes : List Float) :
    readDashes (" ".intercalate (dashes.map number)) = dashes.map number := by
  have figure {x : Float} {c : Char} (hc : c ∈ (number x).toList) : Decimal.isFigure c = true :=
    Decimal.isFigure_plain (String.toList_ofList ▸ hc)
  have filled (x : Float) : (number x).toList ≠ [] := by
    rw [number, String.toList_ofList]
    exact Decimal.Layout.plain.text_ne_nil x
  have apart : ∀ t ∈ (dashes.map number).map String.toList, ' ' ∉ t := by
    simp only [List.forall_mem_map]
    intro x _ blank
    have known := figure blank
    revert known
    decide
  have chars : (" ".intercalate (dashes.map number)).toList
      = join [' '] ((dashes.map number).map String.toList) := by
    rw [String.toList_intercalate, join_eq_intercalate]
    rfl
  cases dashes with
  | nil => rfl
  | cons x dashes =>
    have some : " ".intercalate ((x :: dashes).map number) ≠ "" := by
      intro empty
      have none := congrArg String.toList empty
      rw [chars, List.map_cons, List.map_cons, join_cons] at none
      exact filled x (List.append_eq_nil_iff.1 none).1
    rw [readDashes, if_neg some, chars, pieces_join (by simp) apart, List.map_map]
    exact (List.map_congr_left fun s _ => String.ofList_toList).trans (List.map_id _)

theorem tells_fill (color : Option String) (opacity : Option Float) :
    Tells fillParts (textParameter? "fill" color ++ numberParameter? "fill-opacity" opacity)
      ⟨color, opacity.map number⟩ [] := by
  rw [numberParameter?_eq]
  refine (tells_parameter color ?_).bind ((tells_parameter (opacity.map number) .nil).map _)
  exact (apart_parameter (by decide) _).append .nil

theorem tells_fill? (color : Option String) (opacity : Option Float) (apart : Apart ("Fill", []) rest) :
    Tells (element? "Fill" fillParts) (fill? color opacity) (summaryOfFill color opacity) rest := by
  have written : fill? color opacity = ((summaryOfFill color opacity).map fun _ => element "Fill" []
      (textParameter? "fill" color ++ numberParameter? "fill-opacity" opacity)).toList := by
    cases color <;> cases opacity <;> rfl
  have told : (summaryOfFill color opacity).map (fun _ => ⟨color, opacity.map number⟩)
      = summaryOfFill color opacity := by
    cases color <;> cases opacity <;> rfl
  have tells := tells_element (summaryOfFill color opacity) (fun _ => tells_fill color opacity) apart
  rwa [told, ← written] at tells

def strokeNodes (color : Option String) (width opacity : Option Float) (dashes : Option (List Float)) :
    List XmlNode :=
  textParameter? "stroke" color ++ (numberParameter? "stroke-width" width
    ++ (numberParameter? "stroke-opacity" opacity
      ++ textParameter? "stroke-dasharray" (dashes.map fun ds => " ".intercalate (ds.map number))))

theorem tells_stroke (color : Option String) (width opacity : Option Float)
    (dashes : Option (List Float)) : Tells strokeParts (strokeNodes color width opacity dashes)
      ⟨color, width.map number, opacity.map number, dashes.map fun ds => ds.map number⟩ [] := by
  have read : (dashes.map fun ds => " ".intercalate (ds.map number)).map readDashes
      = dashes.map fun ds => ds.map number := by
    rw [Option.map_map]
    exact congrArg (dashes.map ·) (funext readDashes_number)
  rw [strokeNodes, numberParameter?_eq, numberParameter?_eq, ← read]
  refine (tells_parameter color ?_).bind ((tells_parameter (width.map number) ?_).bind
    ((tells_parameter (opacity.map number) ?_).bind ((tells_parameter _ .nil).map _)))
  · exact ((apart_parameter (by decide) _).append ((apart_parameter (by decide) _).append
      (apart_parameter (by decide) _))).append .nil
  · exact ((apart_parameter (by decide) _).append (apart_parameter (by decide) _)).append .nil
  · exact (apart_parameter (by decide) _).append .nil

theorem tells_outline (color : Option String) (width opacity : Option Float)
    (apart : Apart ("Stroke", []) rest) : Tells (element? "Stroke" strokeParts)
      (color.map fun c => stroke c width opacity).toList (summaryOfOutline color width opacity) rest := by
  have written (c : String) : stroke c width opacity
      = element "Stroke" [] (strokeNodes (some c) width opacity none) := by
    simp [stroke, strokeNodes, textParameter?]
  simp only [written]
  exact tells_element color (fun c => tells_stroke (some c) width opacity none) apart

theorem tells_polygon (s : FillSymbolizer) : Tells polygonParts
    (fill? s.color s.effectiveOpacity
      ++ (s.outlineColor.map fun c => stroke c s.outlineWidth s.outlineOpacity).toList)
    (.polygon (summaryOfFill s.color (s.fillOpacity.or s.opacity))
      (summaryOfOutline s.outlineColor s.outlineWidth s.outlineOpacity)) [] := by
  refine (tells_fill? s.color s.effectiveOpacity ?_).bind ((tells_outline _ _ _ .nil).map _)
  exact (apart_element (by decide) _ _).append .nil

theorem tells_line (s : LineSymbolizer) : Tells lineParts
    [element "Stroke" [] (strokeNodes s.color s.width s.opacity s.dasharray)]
    (.line ⟨s.color, s.width.map number, s.opacity.map number, s.dasharray.map fun ds => ds.map number⟩)
    [] :=
  (tells_required (tells_stroke s.color s.width s.opacity s.dasharray)).map _

theorem apart_fill? {name : String} (different : "Fill" ≠ name) (color : Option String)
    (opacity : Option Float) : Apart (name, []) (fill? color opacity) := by
  have other (children : List XmlNode) : Apart (name, []) [element "Fill" [] children] := by
    simp [Apart, tag?, different]
  cases color <;> cases opacity
  · exact .nil
  all_goals exact other _

theorem tells_mark (s : MarkSymbolizer) : Tells markParts
    ((s.wellKnownName.map (leaf "WellKnownName")).toList ++ (fill? s.color s.opacity
      ++ (s.strokeColor.map fun c => stroke c s.strokeWidth s.strokeOpacity).toList))
    ⟨s.wellKnownName, summaryOfFill s.color s.opacity,
      summaryOfOutline s.strokeColor s.strokeWidth s.strokeOpacity⟩ [] := by
  refine (tells_name s.wellKnownName ?_).bind ((tells_fill? s.color s.opacity ?_).bind
    ((tells_outline _ _ _ .nil).map _))
  · exact ((apart_fill? (by decide) _ _).append (apart_element (by decide) _ _)).append .nil
  · exact (apart_element (by decide) _ _).append .nil

theorem tells_graphic (s : MarkSymbolizer) : Tells graphicParts
    (element "Mark" [] ((s.wellKnownName.map (leaf "WellKnownName")).toList ++ (fill? s.color s.opacity
        ++ (s.strokeColor.map fun c => stroke c s.strokeWidth s.strokeOpacity).toList))
      :: (s.radius.map fun r => leaf "Size" (number (r * 2.0))).toList)
    (.point ⟨s.wellKnownName, summaryOfFill s.color s.opacity,
        summaryOfOutline s.strokeColor s.strokeWidth s.strokeOpacity⟩
      (s.radius.map fun r => number (r * 2.0))) [] :=
  (tells_required (tells_mark s)).bind ((tells_leaf s.radius .nil).map _)

theorem tells_font? (s : TextSymbolizer) (apart : Apart ("Font", []) rest) :
    Tells (element? "Font" fontParts) (font? s) (summaryOfFont s.font s.size) rest := by
  have inner : Tells fontParts (textParameter? "font-family" (s.font.map fun names => ",".intercalate names)
      ++ numberParameter? "font-size" s.size)
      ⟨s.font.map fun names => ",".intercalate names, s.size.map number⟩ [] := by
    rw [numberParameter?_eq]
    refine (tells_parameter _ ?_).bind ((tells_parameter _ .nil).map _)
    exact (apart_parameter (by decide) _).append .nil
  have written : font? s = ((summaryOfFont s.font s.size).map fun _ => element "Font" []
      (textParameter? "font-family" (s.font.map fun names => ",".intercalate names)
        ++ numberParameter? "font-size" s.size)).toList := by
    unfold font?
    cases s.font <;> cases s.size <;> rfl
  have told : (summaryOfFont s.font s.size).map
      (fun _ => ⟨s.font.map fun names => ",".intercalate names, s.size.map number⟩)
      = summaryOfFont s.font s.size := by
    cases s.font <;> cases s.size <;> rfl
  have tells := tells_element (summaryOfFont s.font s.size) (fun _ => inner) apart
  rwa [told, ← written] at tells

theorem tells_halo? (s : TextSymbolizer) (apart : Apart ("Halo", []) rest) :
    Tells (element? "Halo" haloParts) (halo? s)
      (s.haloColor.map fun c => ⟨s.haloWidth.map number, ⟨some c, s.haloOpacity.map number⟩⟩) rest := by
  refine tells_element s.haloColor (fun c => ?_) apart
  refine (tells_leaf s.haloWidth ?_).bind ((tells_required (tells_fill (some c) s.haloOpacity)).map _)
  exact (apart_fill? (by decide) (some c) s.haloOpacity).append .nil

open LabelPiece

theorem put_text {s : String} (filled : s ≠ "") {nodes : List XmlNode}
    (front : ∀ e ∈ nodes.head?, e.isElement = true) : (XmlNode.text s).put nodes = .text s :: nodes := by
  unfold put
  split
  · contradiction
  · split
    · cases front _ rfl
    · simp_all

theorem normalBehind_textOf (s : List Char) {nodes : List XmlNode}
    (front : ∀ e ∈ nodes.head?, e.isElement = true) (behind : List XmlNode) :
    normalBehind nodes ((textOf s).map labelPiece ++ behind)
      = normalBehind (((textOf s).map labelPiece).reverse ++ nodes) behind := by
  unfold textOf
  split
  · rfl
  · rename_i filled
    have some : String.ofList s ≠ "" := fun e => filled (by simpa using congrArg String.toList e)
    rw [List.map_singleton, List.singleton_append, normalBehind, labelPiece, normal, put_text some front]
    rfl

/-- No two texts of a label stand side by side, and none is empty. -/
theorem normalBehind_pieces (s : List Char) {before : List XmlNode}
    (front : ∀ e ∈ before.head?, e.isElement = true) :
    normalBehind before ((pieces s).map labelPiece)
      = (((pieces s).map labelPiece).map normal).reverse ++ before := by
  have texts (s : List Char) : ((textOf s).map labelPiece).map normal = (textOf s).map labelPiece := by
    unfold textOf
    split <;> rfl
  have alone {s : List Char} {before : List XmlNode} (front : ∀ e ∈ before.head?, e.isElement = true) :
      normalBehind before ((textOf s).map labelPiece)
        = (((textOf s).map labelPiece).map normal).reverse ++ before := by
    have behind := normalBehind_textOf s front []
    rw [List.append_nil] at behind
    rw [behind, texts]
    rfl
  -- the element of a reference parts the text before it from the one behind it
  fun_induction pieces s generalizing before with
  | case1 s absent => exact alone front
  | case2 s before' after opens absent => exact alone front
  | case3 s before' after opens name rest closes ih =>
    have reference : labelPiece (column name) = leaf "ogc:PropertyName" (String.ofList (trim name)) := rfl
    rw [List.map_append, List.map_cons, normalBehind_textOf before' front, reference, leaf,
      normalBehind_element, ih (by rintro _ ⟨⟩; rfl), List.map_append, texts]
    simp

theorem normal_label (s : String) : (label s).normal = element "Label" []
    ((if isTemplate s.toList then (pieces s.toList).map labelPiece
      else [leaf "ogc:PropertyName" s]).map normal) := by
  rw [label]
  split
  · rw [normal, normalBehind_pieces s.toList (by simp), List.append_nil, List.reverse_reverse]
  · exact normal_element (by simp [leaf, isElement])

theorem readPiece?_leaf (s : String) :
    readPiece? (leaf "ogc:PropertyName" s).normal = some (.column s.toList) := by
  have told : (leaf "ogc:PropertyName" s).normal.told? "ogc:PropertyName" = some s := told?_leaf s
  rw [leaf, normal_text] at told ⊢
  show (told? _ _).map _ = _
  rw [told]
  rfl

theorem readPieces?_labelPiece (ps : List LabelPiece) :
    readPieces? ((ps.map labelPiece).map normal) = some (ps.map told) := by
  induction ps with
  | nil => rfl
  | cons p ps ih =>
    have read : readPiece? (labelPiece p).normal = some p.told := by
      cases p with
      | text s => exact congrArg (fun s => some (LabelPiece.text s)) String.toList_ofList
      | column name => rw [labelPiece, readPiece?_leaf, String.toList_ofList, told]
    rw [List.map_cons, List.map_cons, readPieces?, read, ih]
    rfl

theorem tells_label? (s : Option String) (apart : Apart ("Label", []) rest) :
    Tells (element? "Label" labelParts) (s.map label).toList (s.map summaryOfLabel) rest := by
  refine tells_part s (fun _ => rfl) (fun s => ?_) apart
  have read : readPieces? ((if isTemplate s.toList then (pieces s.toList).map labelPiece
      else [leaf "ogc:PropertyName" s]).map normal) = some (summaryOfLabel s) := by
    rw [summaryOfLabel]
    split
    · exact readPieces?_labelPiece _
    · rw [List.map_singleton, readPieces?, readPiece?_leaf]
      rfl
  have run : labelParts.run ((if isTemplate s.toList then (pieces s.toList).map labelPiece
      else [leaf "ogc:PropertyName" s]).map normal) = some (summaryOfLabel s, []) :=
    congrArg (Option.map fun ps => (ps, [])) read
  rw [normal_label, whole?, run]

theorem tells_text (s : TextSymbolizer) : Tells textParts
    ((s.label.map label).toList ++ (font? s ++ (halo? s ++ fill? s.color s.opacity)))
    (.text (s.label.map summaryOfLabel) (summaryOfFont s.font s.size)
      (s.haloColor.map fun c => ⟨s.haloWidth.map number, ⟨some c, s.haloOpacity.map number⟩⟩)
      (summaryOfFill s.color s.opacity)) [] := by
  have fill {name : String} (different : "Fill" ≠ name) : Apart (name, []) (fill? s.color s.opacity ++ []) :=
    (apart_fill? different _ _).append .nil
  have halo {name : String} (different : "Halo" ≠ name) : Apart (name, []) (halo? s) :=
    apart_element different _ _
  have font : Apart ("Label", []) (font? s) := by
    have other (children : List XmlNode) : Apart ("Label", []) [element "Font" [] children] := by
      simp [Apart, tag?]
    unfold font?
    split
    · exact .nil
    · exact other _
  refine (tells_label? s.label ?_).bind ((tells_font? s ?_).bind ((tells_halo? s ?_).bind
    ((tells_fill? s.color s.opacity .nil).map _)))
  · exact (font.append ((halo (by decide)).append (apart_fill? (by decide) _ _))).append .nil
  · exact ((halo (by decide)).append (apart_fill? (by decide) _ _)).append .nil
  · exact fill (by decide)

theorem readSymbolizer?_symbolizer? {s : Symbolizer} {e : XmlNode} (drawn : symbolizer? s = some e) :
    ∃ told, summaryOfSymbolizer? s = some told ∧ readSymbolizer? e.normal = some told := by
  cases s with
  | fill s =>
    obtain rfl := Option.some.inj drawn
    have told : whole? polygonParts (polygonSymbolizer s).normal = _ := (tells_polygon s).whole?_eq
    exact ⟨_, rfl, told⟩
  | line s =>
    obtain rfl := Option.some.inj drawn
    have written : lineSymbolizer s = element "LineSymbolizer" []
        [element "Stroke" [] (strokeNodes s.color s.width s.opacity s.dasharray)] := by
      simp [lineSymbolizer, strokeNodes]
    have told : whole? lineParts (lineSymbolizer s).normal = _ := written ▸ (tells_line s).whole?_eq
    exact ⟨_, rfl, told⟩
  | mark s =>
    obtain rfl := Option.some.inj drawn
    have written : pointSymbolizer s = element "PointSymbolizer" [] [element "Graphic" []
        (element "Mark" [] ((s.wellKnownName.map (leaf "WellKnownName")).toList ++ (fill? s.color s.opacity
            ++ (s.strokeColor.map fun c => stroke c s.strokeWidth s.strokeOpacity).toList))
          :: (s.radius.map fun r => leaf "Size" (number (r * 2.0))).toList)] := by
      simp [pointSymbolizer]
    have told : whole? (required "Graphic" graphicParts) (pointSymbolizer s).normal = _ :=
      written ▸ (tells_required (tells_graphic s)).whole?_eq
    exact ⟨_, rfl, told⟩
  | text s =>
    obtain rfl := Option.some.inj drawn
    have written : textSymbolizer s = element "TextSymbolizer" []
        ((s.label.map label).toList ++ (font? s ++ (halo? s ++ fill? s.color s.opacity))) := by
      simp [textSymbolizer]
    have told : whole? textParts (textSymbolizer s).normal = _ := written ▸ (tells_text s).whole?_eq
    exact ⟨_, rfl, told⟩
  | icon members => cases drawn
  | raster members => cases drawn

/-- The elements of symbolizers are read as what is told of the symbolizers, in their order. -/
theorem readSymbolizers?_symbolizers (symbolizers : List Symbolizer) :
    readSymbolizers? ((symbolizers.filterMap symbolizer?).map normal)
      = some (symbolizers.filterMap summaryOfSymbolizer?) := by
  induction symbolizers with
  | nil => rfl
  | cons s rest ih =>
    cases drawn : symbolizer? s with
    | none =>
      have untold : summaryOfSymbolizer? s = none := by
        cases s with
        | icon | raster => rfl
        | fill | line | mark | text => cases drawn
      rw [List.filterMap_cons_none drawn, List.filterMap_cons_none untold, ih]
    | some e =>
      obtain ⟨told, known, read⟩ := readSymbolizer?_symbolizer? drawn
      rw [List.filterMap_cons_some drawn, List.filterMap_cons_some known, List.map_cons,
        readSymbolizers?, read, ih]
      rfl

/-- A label is told in the parts that it says, and in no others. -/
theorem says_iff {s : List Char} {ps : List LabelPiece} :
    Says s ps ↔ ps = summaryOfLabel (String.ofList s) := by
  rw [summaryOfLabel, String.toList_ofList, isTemplate, occursIn]
  cases found : cut? ['{', '{'] s with
  | none =>
    have plain := cut?_eq_none_iff.1 found
    refine ⟨?_, ?_⟩
    · rintro (⟨opens, -⟩ | -)
      · exact absurd opens (plain _ _)
      · rfl
    · rintro rfl
      exact .column plain
  | some parts =>
    have opens := append_of_cut? found
    refine ⟨?_, ?_⟩
    · rintro (⟨-, scanned⟩ | plain)
      · exact congrArg (List.map told) (scanned_iff.1 scanned)
      · exact absurd opens (plain _ _)
    · rintro rfl
      exact .template opens (scanned_pieces s)

end symbolizers

end Sld

end MapLayer
