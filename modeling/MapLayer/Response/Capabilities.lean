import MapLayer.Failure
import MapLayer.Json.Basic
import MapLayer.Xml.Event

/-!
The layers in a capabilities document. Only layers without layers inside can be requested, and only
those with a name.
-/

namespace MapLayer

structure LayerInfo where
  name : String
  title : String
deriving DecidableEq, Repr

def LayerInfo.toJson (l : LayerInfo) : Json :=
  .ofMembers [("name", .string l.name), ("title", .string l.title)]

structure Capabilities where
  title : Option String := none
  layers : List LayerInfo := []
deriving DecidableEq, Repr

namespace Capabilities

open Xml

/-- A layer element that is still open. -/
structure Frame where
  name : Option String := none
  title : Option String := none
  hasLayer : Bool := false

/-- What has been read: the names of the open elements and the open layers, the innermost first,
and what is known of the service. -/
structure State where
  path : List (List Char) := []
  frames : List Frame := []
  found : Capabilities := {}

def layerName : List Char := ['L', 'a', 'y', 'e', 'r']

/-- The innermost open layer with a change. -/
def onFrame (f : Frame → Frame) : List Frame → List Frame
  | [] => []
  | frame :: rest => f frame :: rest

def State.enter (st : State) (name : List Char) : State :=
  let frames := if name = layerName then
      {} :: onFrame (fun f => { f with hasLayer := true }) st.frames
    else st.frames
  { st with path := name :: st.path, frames }

/-- The text of an element belongs to the service or to the innermost layer. -/
def State.read (st : State) (text : String) : State :=
  match st.path with
  | leaf :: parent :: _ =>
    if parent = "Service".toList ∧ leaf = "Title".toList then
      { st with found := { st.found with title := some text } }
    else if parent = layerName ∧ leaf = "Name".toList then
      { st with frames := onFrame (fun f => { f with name := some text }) st.frames }
    else if parent = layerName ∧ leaf = "Title".toList then
      { st with frames := onFrame (fun f => { f with title := some text }) st.frames }
    else st
  | _ => st

/-- The layer of a frame, titled with its name if it has no title. -/
def Frame.layer? (f : Frame) : Option LayerInfo :=
  if f.hasLayer then none else f.name.map fun name => ⟨name, f.title.getD name⟩

def State.leave (st : State) (name : List Char) : State :=
  let st := { st with path := st.path.tail }
  if name = layerName then
    match st.frames with
    | frame :: rest =>
      { st with
        frames := rest
        found := { st.found with layers := st.found.layers ++ frame.layer?.toList } }
    | [] => st
  else st

/-- In full the message goes on with the position of the reader and its own words, and of a text that cannot be
unescaped it has those words alone. Position and words are left out here. -/
def malformed : Failure := .malformedXml "capabilities parse error"

def State.next (st : State) : Event → Outcome State
  | .start tag => .ok (st.enter (localName tag.name))
  | .finish name => .ok (st.leave (localName name))
  | .text raw => match unescape? raw with
    | none => .error malformed
    | some s => .ok (if Text.trim s = [] then st else st.read (String.ofList (Text.trim s)))
  | .empty _ | .data _ | .aside => .ok st
  | .malformed => .error malformed

def titleOr (c : Capabilities) (fallback : String) : String :=
  c.title.getD fallback

def parse (xml : String) : Outcome Capabilities :=
  (·.found) <$> (events xml.toList).foldlM State.next {}

end Capabilities

end MapLayer
