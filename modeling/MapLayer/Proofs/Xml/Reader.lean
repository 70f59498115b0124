import MapLayer.Xml.Attribute
import MapLayer.Xml.Node

/-!
Reading a whole document as a tree. Nothing is trimmed, entities are resolved, every tag is closed by the
tag of its name, and there is one root.
-/

namespace MapLayer

namespace XmlNode

/-- A node behind others, the last of which stands first. Neighbouring texts become one, and a text without
characters is left out. -/
def put (node : XmlNode) (nodes : List XmlNode) : List XmlNode :=
  match node with
  | element .. => node :: nodes
  | text s => match nodes with
    | text t :: others => text (t ++ s) :: others
    | _ => if s = "" then nodes else text s :: nodes

def isPadding : XmlNode → Bool
  | text s => s.toList.all Text.isSpacing
  | element .. => false

end XmlNode

namespace Xml

open MapLayer.Text

def Tag.values? (t : Tag) : Option (List (String × String)) :=
  t.attributes.mapM fun
    | .pair name value => (unescape? value).map fun s => (String.ofList name, String.ofList s)
    | .malformed => none

/-- An element that is not closed yet, and the nodes before it, the last one first. -/
structure Pending where
  name : List Char
  attributes : List (String × String)
  before : List XmlNode

/-- A document read in part: the elements that are open, the innermost first, and the nodes in it, the last
one first. -/
structure Draft where
  pending : List Pending := []
  nodes : List XmlNode := []

namespace Draft

def add (d : Draft) (node : XmlNode) : Draft := { d with nodes := node.put d.nodes }

def enter (d : Draft) (name : List Char) (attributes : List (String × String)) : Draft :=
  ⟨⟨name, attributes, d.nodes⟩ :: d.pending, []⟩

def leave? (d : Draft) : Option Draft :=
  match d.pending with
  | [] => none
  | e :: pending =>
    some ⟨pending, .element (String.ofList e.name) e.attributes d.nodes.reverse :: e.before⟩

def after? (d : Draft) : Event → Option Draft
  | .start tag => tag.values?.map (d.enter tag.name)
  | .empty tag => tag.values?.map fun values => d.add (.element (String.ofList tag.name) values [])
  | .finish _ => d.leave?
  | .text raw => (unescape? raw).map fun s => d.add (.text (String.ofList s))
  | .data s => some (d.add (.text (String.ofList s)))
  | .aside => some d
  | .malformed => none

/-- The next event of a text that is not trimmed. -/
def next? (d : Draft) : List Char → Option Step
  | [] => none
  | c :: s =>
    let opened := d.pending.map (·.name)
    if c = '<' then some (markupStep opened s)
    else some ⟨.text (c :: s.takeWhile (· != '<')), opened, s.dropWhile (· != '<')⟩

theorem length_next? {d : Draft} {s : List Char} {step : Step} (h : d.next? s = some step) :
    step.rest.length < s.length := by
  cases s with
  | nil => cases h
  | cons c s =>
    dsimp only [next?] at h
    split at h
    · obtain rfl := Option.some.inj h
      exact Nat.lt_succ_of_le (length_markupStep _ s)
    · obtain rfl := Option.some.inj h
      exact Nat.lt_succ_of_le (List.dropWhile_sublist _).length_le

def read? (d : Draft) (s : List Char) : Option Draft :=
  match _h : d.next? s with
  | none => some d
  | some step => match d.after? step.event with
    | none => none
    | some after => after.read? step.rest
termination_by s.length
decreasing_by exact length_next? _h

def root? (d : Draft) : Option XmlNode :=
  match d.pending, d.nodes.filter (!·.isPadding) with
  | [], [.element name attributes children] => some (.element name attributes children)
  | _, _ => none

end Draft

def tree? (s : String) : Option XmlNode := (Draft.read? {} s.toList).bind Draft.root?

end Xml

end MapLayer
