import MapLayer.Proofs.Xml.Events
import MapLayer.Response.Capabilities

/-!
The layers of a capabilities document, from the tree that it writes. Main statement: reading the document
gives the leaf layers with a name, in the order of the document, and the title of the service. The names and
titles of styles, groups and services are never taken for those of a layer.
-/

namespace MapLayer

open MapLayer.Text MapLayer.Xml

namespace XmlNode

def children : XmlNode → List XmlNode
  | text _ => []
  | element _ _ children => children

/-- Whether a node is an element of a name, with any prefix. -/
def isLocal (name : List Char) : XmlNode → Bool
  | text _ => false
  | element written _ _ => localName written.toList = name

/-- A text without the white space around it, unless it is blank. -/
def run? (s : String) : Option String :=
  if trim s.toList = [] then none else some (String.ofList (trim s.toList))

/-- The runs of character data among nodes, but not those inside elements. -/
def runs (nodes : List XmlNode) : List String :=
  nodes.filterMap fun
    | text s => run? s
    | element .. => none

/-- The text of an element that is not blank. Of several runs the last one counts. -/
def said? (e : XmlNode) : Option String := (runs e.children).getLast?

/-- What the last element of a name says among nodes, of those that say something. -/
def lastSaid? (name : String) (nodes : List XmlNode) : Option String :=
  ((nodes.filter (isLocal name.toList)).filterMap said?).getLast?

mutual

/-- All runs of character data in a tree, each with the names of the elements around it, the innermost
first. -/
def placed (path : List (List Char)) : XmlNode → List (List (List Char) × String)
  | text s => (run? s).toList.map (path, ·)
  | element name _ children => placedAll (localName name.toList :: path) children

def placedAll (path : List (List Char)) : List XmlNode → List (List (List Char) × String)
  | [] => []
  | node :: nodes => placed path node ++ placedAll path nodes

end

theorem placedAll_append (path : List (List Char)) (nodes more : List XmlNode) :
    placedAll path (nodes ++ more) = placedAll path nodes ++ placedAll path more := by
  induction nodes with
  | nil => rfl
  | cons node nodes ih => rw [List.cons_append, placedAll, placedAll, ih, List.append_assoc]

theorem lastSaid?_eq (name : String) (nodes : List XmlNode) : lastSaid? name nodes
    = ((nodes.filter (isLocal name.toList)).flatMap fun e => runs e.children).getLast? := by
  rw [lastSaid?, List.getLast?_filterMap, List.getLast?_flatMap]
  rfl

end XmlNode

namespace Capabilities

open XmlNode

def isLayer (e : XmlNode) : Bool := e.isLocal layerName

/-- The layer of an element: one that has no layers inside, and has a name. -/
def layer? (e : XmlNode) : Option LayerInfo :=
  if isLayer e ∧ ¬(elementsAll e.children).any isLayer then
    (lastSaid? "Name" e.children).map fun name =>
      ⟨name, (lastSaid? "Title" e.children).getD name⟩
  else none

def inServiceTitle (placed : List (List Char) × String) : Bool :=
  placed.1.take 2 = ["Title".toList, "Service".toList]

/-- The texts in titles of services among nodes, in their order. The nodes stand inside elements of some
names. -/
def serviceTitles (path : List (List Char)) (nodes : List XmlNode) : List String :=
  ((placedAll path nodes).filter inServiceTitle).map (·.2)

/-- What a tree says of a service. Of several titles the last one counts. -/
def described (t : XmlNode) : Capabilities where
  title := (serviceTitles [] [t]).getLast?
  layers := t.elements.filterMap layer?

/-- What nodes tell the innermost layer under a name: texts in elements that are its children. -/
def heardOf (name : List Char) (path : List (List Char)) : XmlNode → List String
  | text s => if path.take 2 = [name, layerName] then (run? s).toList else []
  | element written _ children =>
    if path.head? = some layerName ∧ localName written.toList = name then runs children else []

def heard (name : String) (path : List (List Char)) (nodes : List XmlNode) : List String :=
  nodes.flatMap (heardOf name.toList path)

def Frame.after (path : List (List Char)) (nodes : List XmlNode) (f : Frame) : Frame where
  name := (heard "Name" path nodes).getLast?.or f.name
  title := (heard "Title" path nodes).getLast?.or f.title
  hasLayer := f.hasLayer || (elementsAll nodes).any isLayer

/-- What has been read behind nodes. Each part is added up over the nodes, so that a list of them can be read
one after the other. -/
def State.after (st : State) (nodes : List XmlNode) : State where
  path := st.path
  frames := onFrame (Frame.after st.path nodes) st.frames
  found :=
    { title := (serviceTitles st.path nodes).getLast?.or st.found.title
      layers := st.found.layers ++ (elementsAll nodes).filterMap layer? }

section after

variable (st : State)

theorem onFrame_cons (f : Frame → Frame) (frame : Frame) (rest : List Frame) :
    onFrame f (frame :: rest) = f frame :: rest := rfl

theorem onFrame_onFrame (f g : Frame → Frame) (frames : List Frame) :
    onFrame g (onFrame f frames) = onFrame (g ∘ f) frames := by
  cases frames <;> rfl

theorem onFrame_id (frames : List Frame) : onFrame id frames = frames := by
  cases frames <;> rfl

theorem State.after_nil : st.after [] = st := by
  have same : Frame.after st.path [] = id := by
    funext f
    simp [Frame.after, heard, elementsAll]
  simp [State.after, same, onFrame_id, serviceTitles, placedAll, elementsAll]

theorem State.after_append (nodes more : List XmlNode) :
    (st.after nodes).after more = st.after (nodes ++ more) := by
  have same : Frame.after st.path more ∘ Frame.after st.path nodes
      = Frame.after st.path (nodes ++ more) := by
    funext f
    simp [Frame.after, heard, elementsAll_append, Option.or_assoc, Bool.or_assoc]
  simp [State.after, onFrame_onFrame, same, serviceTitles, placedAll_append, elementsAll_append,
    Option.or_assoc]

theorem Frame.after_text {s said : String} (run : run? s = some said) (path : List (List Char))
    (f : Frame) : f.after path [text s]
      = { f with
          name := if path.take 2 = ["Name".toList, layerName] then some said else f.name
          title := if path.take 2 = ["Title".toList, layerName] then some said else f.title } := by
  simp only [Frame.after, heard, List.flatMap_cons, List.flatMap_nil, List.append_nil, heardOf, run,
    Option.toList_some, elementsAll, elements, List.any_nil, Bool.or_false]
  congr 1 <;> split <;> rfl

theorem State.read_placed (said : String) : st.read said
    = if st.path.take 2 = ["Title".toList, "Service".toList] then
        { st with found := { st.found with title := some said } }
      else if st.path.take 2 = ["Name".toList, layerName] then
        { st with frames := onFrame (fun f => { f with name := some said }) st.frames }
      else if st.path.take 2 = ["Title".toList, layerName] then
        { st with frames := onFrame (fun f => { f with title := some said }) st.frames }
      else st := by
  obtain ⟨path, frames, found⟩ := st
  match path with
  | [] => rfl
  | [leaf] =>
    have short (word other : List Char) : List.take 2 [leaf] ≠ [word, other] := by simp
    rw [if_neg (short _ _), if_neg (short _ _), if_neg (short _ _)]
    rfl
  | leaf :: parent :: path =>
    have whole (word other : List Char) :
        List.take 2 (leaf :: parent :: path) = [word, other] ↔ parent = other ∧ leaf = word := by
      simp [and_comm]
    simp only [State.read, whole]

theorem serviceTitles_text {s said : String} (run : run? s = some said) (path : List (List Char)) :
    serviceTitles path [text s]
      = if path.take 2 = ["Title".toList, "Service".toList] then [said] else [] := by
  rw [serviceTitles, placedAll, placedAll, placed, run, List.append_nil, Option.toList_some,
    List.map_singleton, List.filter_singleton]
  by_cases here : path.take 2 = ["Title".toList, "Service".toList]
  · rw [if_pos here, inServiceTitle, decide_eq_true here]
    rfl
  · rw [if_neg here, inServiceTitle, decide_eq_false here]
    rfl

theorem State.after_text {s said : String} (run : run? s = some said) :
    st.after [text s] = st.read said := by
  have whole : Frame.after st.path [text s] = _ := funext (Frame.after_text run st.path)
  have apart (word other : List Char) : [word, layerName] ≠ [other, "Service".toList] := by
    intro same
    exact absurd (List.cons.inj (List.cons.inj same).2).1 (by decide)
  have distinct : ["Title".toList, layerName] ≠ ["Name".toList, layerName] := by decide
  rw [State.after, State.read_placed, whole, serviceTitles_text run, elementsAll, elementsAll, elements,
    List.append_nil, List.filterMap_nil, List.append_nil]
  have same : onFrame (fun f => ⟨f.name, f.title, f.hasLayer⟩) st.frames = st.frames :=
    onFrame_id st.frames
  generalize st.path.take 2 = place
  by_cases service : place = ["Title".toList, "Service".toList]
  · simp only [service, if_true, (apart _ _).symm, if_false, same]
    rfl
  · by_cases name : place = ["Name".toList, layerName]
    · simp only [name, apart, distinct.symm, if_true, if_false]
      rfl
    · simp only [service, name, if_false]
      split
      · rfl
      · rw [same]
        rfl

theorem State.after_blank {s : String} (blank : run? s = none) : st.after [text s] = st := by
  have same : Frame.after st.path [text s] = id := by
    funext f
    simp [Frame.after, heard, heardOf, elementsAll, elements, blank]
  simp [State.after, same, onFrame_id, serviceTitles, placedAll, placed, elementsAll, elements, blank]

/-- Inside an element that is no layer, only its own texts can be told to the layer around it. -/
theorem heard_inside {inner : List Char} (other : inner ≠ layerName) (name : String)
    (path : List (List Char)) (nodes : List XmlNode) : heard name (inner :: path) nodes
      = if path.head? = some layerName ∧ inner = name.toList then runs nodes else [] := by
  induction nodes with
  | nil => simp [heard, runs]
  | cons node nodes ih =>
    rw [heard, List.flatMap_cons, ← heard, ih]
    cases node with
    | text s =>
      have place : List.take 2 (inner :: path) = [name.toList, layerName]
          ↔ path.head? = some layerName ∧ inner = name.toList := by
        cases path <;> simp [and_comm]
      simp only [heardOf, place]
      split
      · cases run : run? s <;> simp [runs, run]
      · rfl
    | element written attributes children =>
      simp [heardOf, other, runs]

theorem heard_layer (name : String) (other : name.toList ≠ layerName) (path : List (List Char))
    (nodes : List XmlNode) : (heard name (layerName :: path) nodes).getLast? = lastSaid? name nodes := by
  have each (e : XmlNode) : heardOf name.toList (layerName :: path) e
      = if e.isLocal name.toList then runs e.children else [] := by
    cases e with
    | text s => simp [heardOf, isLocal, other.symm]
    | element written attributes children => simp [heardOf, isLocal, XmlNode.children]
  rw [lastSaid?_eq, heard, funext each]
  congr 1
  induction nodes with
  | nil => rfl
  | cons node nodes ih =>
    rw [List.flatMap_cons, ih, List.filter_cons]
    split <;> simp

variable {name : String} {attributes : List (String × String)} {children : List XmlNode}

theorem layer?_of_inner (inner : (elementsAll children).any isLayer = true) :
    layer? (element name attributes children) = none := by
  simp [layer?, XmlNode.children, inner]

theorem layers_of_none {nodes : List XmlNode} (none : (elementsAll nodes).any isLayer = false) :
    (elementsAll nodes).filterMap layer? = [] := by
  rw [List.filterMap_eq_nil_iff]
  intro e he
  have other : isLayer e = false := by
    rw [List.any_eq_false] at none
    simpa using none e he
  simp [layer?, other]

theorem isLayer_element :
    isLayer (element name attributes children) = decide (localName name.toList = layerName) := rfl

theorem elementsAll_element : elementsAll [element name attributes children]
    = element name attributes children :: elementsAll children := by
  simp [elementsAll, elements]

theorem serviceTitles_element (path : List (List Char)) :
    serviceTitles path [element name attributes children]
      = serviceTitles (localName name.toList :: path) children := by
  simp [serviceTitles, placedAll, placed]

theorem heard_element (word : String) (path : List (List Char)) :
    heard word path [element name attributes children]
      = if path.head? = some layerName ∧ localName name.toList = word.toList then runs children
        else [] := by
  simp [heard, heardOf]

theorem leave_other (other : localName name.toList ≠ layerName) :
    ((st.enter (localName name.toList)).after children).leave (localName name.toList)
      = st.after [element name attributes children] := by
  have top : isLayer (element name attributes children) = false := by simp [isLayer_element, other]
  have nothing : layer? (element name attributes children) = none := by simp [layer?, top]
  have frame : Frame.after (localName name.toList :: st.path) children
      = Frame.after st.path [element name attributes children] := by
    funext f
    simp only [Frame.after, heard_inside other, heard_element, elementsAll_element, List.any_cons, top,
      Bool.false_or]
  simp only [State.enter, State.leave, State.after, if_neg other, frame, serviceTitles_element,
    elementsAll_element, List.filterMap_cons, nothing, List.tail_cons]

/-- A layer inside tells the layer around it that it is there, and nothing else. -/
theorem after_layer (layer : localName name.toList = layerName) (path : List (List Char)) :
    Frame.after path [element name attributes children] = fun f => { f with hasLayer := true } := by
  have heard_none (word : String) (other : layerName ≠ word.toList) :
      heard word path [element name attributes children] = [] := by
    rw [heard_element, layer, if_neg fun h => other h.2]
  funext f
  simp only [Frame.after, heard_none "Name" (by decide),
    heard_none "Title" (by decide), elementsAll_element, List.any_cons, isLayer_element, layer,
    decide_true, Bool.true_or, Bool.or_true]
  rfl

theorem layer?_after (layer : localName name.toList = layerName) (path : List (List Char)) :
    (Frame.after (layerName :: path) children {}).layer? = layer? (element name attributes children) := by
  have top : isLayer (element name attributes children) = true := by simp [isLayer_element, layer]
  simp only [Frame.layer?, Frame.after, heard_layer "Name" (by decide),
    heard_layer "Title" (by decide), Option.or_none, Bool.false_or, layer?, top,
    XmlNode.children]
  cases (elementsAll children).any isLayer <;> simp

theorem leave_layer (layer : localName name.toList = layerName) :
    ((st.enter (localName name.toList)).after children).leave (localName name.toList)
      = st.after [element name attributes children] := by
  have listed : (elementsAll children).filterMap layer? ++ (layer? (element name attributes children)).toList
      = (elementsAll [element name attributes children]).filterMap layer? := by
    rw [elementsAll_element, List.filterMap_cons]
    -- a layer ends after those inside it, but one of the two is empty
    cases inner : (elementsAll children).any isLayer with
    | true => simp [layer?_of_inner inner]
    | false =>
      rw [layers_of_none inner]
      cases layer? (element name attributes children) <;> rfl
  have closed : (Frame.after (layerName :: st.path) children {}).layer?
      = layer? (element name attributes children) := layer?_after layer st.path
  simp only [State.enter, State.leave, State.after, layer, if_true, onFrame_cons, serviceTitles_element,
    List.tail_cons, after_layer layer, closed, List.append_assoc, listed]

end after

theorem foldlM_reports {nodes : List XmlNode} {events : List Event} (h : Reports nodes events)
    (st : State) : events.foldlM State.next st = .ok (st.after nodes) := by
  induction h generalizing st with
  | nil => rw [State.after_nil]; rfl
  | @blank s nodes events blank _ ih =>
    rw [ih, ← List.singleton_append (l := nodes), ← State.after_append,
      State.after_blank st (if_pos blank)]
  | @text s raw letters nodes events resolved same _ ih =>
    have next : st.next (.text raw) = .ok (st.after [text s]) := by
      rw [State.next, resolved]
      dsimp only
      rw [same]
      split
      · rename_i blank
        rw [State.after_blank st (if_pos blank)]
      · rename_i filled
        rw [State.after_text st (if_neg filled)]
    rw [List.foldlM_cons, next, ← List.singleton_append (l := nodes), ← State.after_append]
    exact ih _
  | @element name attributes children nodes inner events within _ _ inside_ih ih =>
    have left : ((st.enter (localName name.toList)).after children).leave (localName name.toList)
        = st.after [element name attributes children] := by
      by_cases layer : localName name.toList = layerName
      · exact leave_layer st layer
      · exact leave_other st layer
    rw [← List.singleton_append (l := nodes), ← State.after_append, ← left]
    change List.foldlM State.next (st.enter (localName name.toList)) _ = _
    rw [List.foldlM_append, inside_ih]
    exact ih _

/-- A document that writes a tree says what the tree does. Nothing is asked of how it is written, but that each
element has both tags. -/
theorem parse_spelled {name : String} {attributes : List (String × String)}
    {children : List XmlNode} {xml : String}
    (spelled : Spells [element name attributes children] xml.toList) :
    parse xml = .ok (described (element name attributes children).normal) := by
  rw [parse, foldlM_reports (reports_spelled spelled)]
  simp [State.after, described, elementsAll, Functor.map, Except.map]

def mines : XmlNode :=
  element "wms:WMS_Capabilities" [("version", "1.3.0")]
    [element "Service" [] [leaf "Title" " Mines & plants\n"],
      element "Layer" [] [leaf "Name" "all", leaf "Title" "All of them",
        element "ms:Layer" [] [leaf "ms:Name" "mine",
          element "Style" [] [leaf "Name" "default", leaf "Title" "Default"]],
        element "Layer" [] [leaf "Name" "plant", leaf "Name" " ", leaf "Title" "Plants"],
        element "Layer" [] [leaf "Title" "Without a name"]]]

theorem parse_spelled_mines : parse (String.ofList mines.render)
    = .ok { title := some "Mines & plants", layers := [⟨"mine", "mine"⟩, ⟨"plant", "Plants"⟩] } := by
  have spelled : Spells [mines] (String.ofList mines.render).toList := by
    have rendered := spells_renderAll [mines] (by decide +kernel)
    rwa [renderAll, renderAll, List.append_nil, ← String.toList_ofList (l := mines.render)] at rendered
  exact (parse_spelled spelled).trans (congrArg Except.ok (by decide +kernel))

end Capabilities

end MapLayer
