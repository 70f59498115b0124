import MapLayer.Proofs.Sld.Parts

/-!
A reader of the elements of symbolizers. It takes the nodes of an element from left to right and leaves none of
them. Main statements: what it finds in nodes that are written one after the other is what it finds in each.
-/

namespace MapLayer

open MapLayer.Text (pieces)

namespace Sld

open XmlNode

structure FillSummary where
  color : Option String
  opacity : Option String
deriving DecidableEq

structure StrokeSummary where
  color : Option String
  width : Option String
  opacity : Option String
  dashes : Option (List String)
deriving DecidableEq

structure MarkSummary where
  wellKnownName : Option String
  fill : Option FillSummary
  stroke : Option StrokeSummary
deriving DecidableEq

structure FontSummary where
  family : Option String
  size : Option String
deriving DecidableEq

structure HaloSummary where
  radius : Option String
  fill : FillSummary
deriving DecidableEq

/-- What an element tells of a symbolizer. -/
inductive SymbolizerSummary
  | polygon (fill : Option FillSummary) (outline : Option StrokeSummary)
  | line (stroke : StrokeSummary)
  | point (mark : MarkSummary) (size : Option String)
  | text (label : Option (List LabelPiece)) (font : Option FontSummary) (halo : Option HaloSummary)
    (fill : Option FillSummary)
deriving DecidableEq

section reading

variable {α : Type}

/-- A reader of nodes from left to right. -/
abbrev Parts (α : Type) := StateT (List XmlNode) Option α

/-- The first node, if it has a tag. A node with another one is left where it is. -/
def part? (tag : String × List (String × String)) (read : XmlNode → Option α) : Parts (Option α)
  | [] => some (none, [])
  | node :: nodes =>
    if node.tag? = some tag then (read node).map fun a => (some a, nodes)
    else some (none, node :: nodes)

/-- What all the nodes in an element tell. -/
def whole? (parts : Parts α) : XmlNode → Option α
  | text _ => none
  | element _ _ children => match parts.run children with
    | some (a, []) => some a
    | _ => none

def parameterTag (name : String) : String × List (String × String) :=
  ("CssParameter", [("name", name)])

def parameter? (name : String) : Parts (Option String) :=
  part? (parameterTag name) (·.told? "CssParameter")

def leaf? (name : String) : Parts (Option String) := part? (name, []) (·.told? name)

def element? (name : String) (parts : Parts α) : Parts (Option α) := part? (name, []) (whole? parts)

/-- An element that has to be there. -/
def required (name : String) (parts : Parts α) : Parts α := do
  match ← element? name parts with
  | some a => return a
  | none => failure

def readDashes (s : String) : List String :=
  if s = "" then [] else (pieces ' ' s.toList).map String.ofList

def fillParts : Parts FillSummary := do
  return { color := ← parameter? "fill", opacity := ← parameter? "fill-opacity" }

def strokeParts : Parts StrokeSummary := do
  return {
    color := ← parameter? "stroke"
    width := ← parameter? "stroke-width"
    opacity := ← parameter? "stroke-opacity"
    dashes := (← parameter? "stroke-dasharray").map readDashes }

def markParts : Parts MarkSummary := do
  return {
    wellKnownName := ← leaf? "WellKnownName"
    fill := ← element? "Fill" fillParts
    stroke := ← element? "Stroke" strokeParts }

def readPiece? : XmlNode → Option LabelPiece
  | text s => some (.text s.toList)
  | e => (e.told? "ogc:PropertyName").map fun name => .column name.toList

def readPieces? : List XmlNode → Option (List LabelPiece)
  | [] => some []
  | node :: nodes => do
    let p ← readPiece? node
    return p :: (← readPieces? nodes)

def labelParts : Parts (List LabelPiece) := fun nodes => (readPieces? nodes).map (·, [])

def fontParts : Parts FontSummary := do
  return { family := ← parameter? "font-family", size := ← parameter? "font-size" }

def haloParts : Parts HaloSummary := do
  return { radius := ← leaf? "Radius", fill := ← required "Fill" fillParts }

def polygonParts : Parts SymbolizerSummary := do
  return .polygon (← element? "Fill" fillParts) (← element? "Stroke" strokeParts)

def lineParts : Parts SymbolizerSummary := do
  return .line (← required "Stroke" strokeParts)

def graphicParts : Parts SymbolizerSummary := do
  return .point (← required "Mark" markParts) (← leaf? "Size")

def textParts : Parts SymbolizerSummary := do
  return .text (← element? "Label" labelParts) (← element? "Font" fontParts)
    (← element? "Halo" haloParts) (← element? "Fill" fillParts)

def readSymbolizer? (e : XmlNode) : Option SymbolizerSummary :=
  match e.tag? with
  | some ("PolygonSymbolizer", []) => whole? polygonParts e
  | some ("LineSymbolizer", []) => whole? lineParts e
  | some ("PointSymbolizer", []) => whole? (required "Graphic" graphicParts) e
  | some ("TextSymbolizer", []) => whole? textParts e
  | _ => none

def readSymbolizers? : List XmlNode → Option (List SymbolizerSummary)
  | [] => some []
  | node :: nodes => do
    let s ← readSymbolizer? node
    return s :: (← readSymbolizers? nodes)

end reading

section tells

variable {α β : Type} {parts : Parts α} {next : α → Parts β} {front back rest : List XmlNode} {a : α}
  {b : β} {name : String} {tag : String × List (String × String)}

/-- A reader takes some elements of those that are written, and leaves the nodes behind them. -/
structure Tells (parts : Parts α) (nodes : List XmlNode) (a : α) (rest : List XmlNode) : Prop where
  elements : ∀ e ∈ nodes, e.isElement = true
  run : parts.run ((nodes ++ rest).map normal) = some (a, rest.map normal)

theorem Tells.bind (first : Tells parts front a (back ++ rest)) (second : Tells (next a) back b rest) :
    Tells (parts >>= next) (front ++ back) b rest := by
  refine ⟨List.forall_mem_append.2 ⟨first.elements, second.elements⟩, ?_⟩
  rw [StateT.run_bind, List.append_assoc, first.run]
  exact second.run

theorem Tells.map (only : Tells parts front a rest) (f : α → β) :
    Tells (parts >>= fun a => pure (f a)) front (f a) rest := by
  refine ⟨only.elements, ?_⟩
  rw [StateT.run_bind, only.run]
  rfl

theorem Tells.whole?_eq (all : Tells parts front a []) :
    whole? parts (element name [] front).normal = some a := by
  have read := all.run
  rw [List.append_nil] at read
  rw [normal_element all.elements, whole?, read]
  rfl

/-- No node has the tag. -/
def Apart (tag : String × List (String × String)) (nodes : List XmlNode) : Prop :=
  ∀ e ∈ nodes, e.tag? ≠ some tag

theorem Apart.nil : Apart tag [] := nofun

theorem Apart.append (hf : Apart tag front) (hb : Apart tag back) : Apart tag (front ++ back) :=
  List.forall_mem_append.2 ⟨hf, hb⟩

theorem apart_optional {x : Option α} {node : α → XmlNode} (other : ∀ a, (node a).tag? ≠ some tag) :
    Apart tag (x.map node).toList := by
  cases x with
  | none => exact Apart.nil
  | some a => simpa [Apart] using other a

theorem tag?_normal (e : XmlNode) : e.normal.tag? = e.tag? := by cases e <;> rfl

theorem isElement_of_tag? {e : XmlNode} (tagged : e.tag? = some tag) : e.isElement = true := by
  cases e with
  | text s => cases tagged
  | element name attributes children => rfl

theorem tells_part {read : XmlNode → Option β} {node : α → XmlNode} {value : α → β} (x : Option α)
    (tagged : ∀ a, (node a).tag? = some tag) (found : ∀ a, read (node a).normal = some (value a))
    (apart : Apart tag rest) : Tells (part? tag read) (x.map node).toList (x.map value) rest := by
  cases x with
  | none =>
    refine ⟨nofun, ?_⟩
    cases rest with
    | nil => rfl
    | cons e rest =>
      have other := apart e List.mem_cons_self
      rw [← tag?_normal] at other
      exact if_neg other
  | some a =>
    refine ⟨by simpa using isElement_of_tag? (tagged a), ?_⟩
    have same : (node a).normal.tag? = some tag := (tag?_normal _).trans (tagged a)
    refine (if_pos same).trans ?_
    rw [found]
    rfl

theorem tells_parameter (s : Option String) (apart : Apart (parameterTag name) rest) :
    Tells (parameter? name) (textParameter? name s) s rest := by
  have tells : Tells (parameter? name) (textParameter? name s) (s.map fun v => v) rest :=
    tells_part s (fun _ => rfl) (told?_text _) apart
  rwa [Option.map_id'] at tells

theorem tells_leaf {value : α → String} (x : Option α) (apart : Apart (name, []) rest) :
    Tells (leaf? name) (x.map fun a => leaf name (value a)).toList (x.map value) rest :=
  tells_part x (fun _ => rfl) (fun _ => told?_leaf _) apart

theorem tells_name (s : Option String) (apart : Apart (name, []) rest) :
    Tells (leaf? name) (s.map (leaf name)).toList s rest := by
  have tells : Tells (leaf? name) (s.map (leaf name)).toList (s.map fun v => v) rest :=
    tells_leaf s apart
  rwa [Option.map_id'] at tells

theorem tells_element {children : α → List XmlNode} {parts : Parts β} {value : α → β} (x : Option α)
    (inner : ∀ a, Tells parts (children a) (value a) []) (apart : Apart (name, []) rest) :
    Tells (element? name parts) (x.map fun a => element name [] (children a)).toList (x.map value) rest :=
  tells_part x (fun _ => rfl) (fun a => (inner a).whole?_eq) apart

theorem tells_required (inner : Tells parts front a []) :
    Tells (required name parts) [element name [] front] a rest := by
  refine ⟨by simp [isElement], ?_⟩
  have same : (element name [] front).normal.tag? = some (name, []) := tag?_normal _
  have read : (element? name parts).run (([element name [] front] ++ rest).map normal)
      = some (some a, rest.map normal) := by
    refine (if_pos same).trans ?_
    rw [inner.whole?_eq]
    rfl
  rw [required, StateT.run_bind, read]
  rfl

theorem apart_parameter {other : String} (different : other ≠ name) (s : Option String) :
    Apart (parameterTag name) (textParameter? other s) :=
  apart_optional fun v => by simp [parameter, parameterTag, tag?, different]

theorem apart_element {other : String} (different : other ≠ name) (x : Option α)
    (children : α → List XmlNode) :
    Apart (name, []) (x.map fun a => element other [] (children a)).toList :=
  apart_optional fun a => by simp [tag?, different]

end tells

end Sld

end MapLayer
