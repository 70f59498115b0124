import MapLayer.Proofs.Xml.Text

/-!
Trees as they are written. Main statement: reading the text of a tree gives the tree back, but for empty texts
and neighbouring ones.
-/

namespace MapLayer

open MapLayer.Text

namespace XmlNode

mutual

/-- The tree without empty texts, and with neighbouring texts made one. -/
def normal : XmlNode → XmlNode
  | text s => text s
  | element name attributes children => element name attributes (normalBehind [] children).reverse

/-- The nodes behind others, the last one first. -/
def normalBehind (before : List XmlNode) : List XmlNode → List XmlNode
  | [] => before
  | node :: nodes => normalBehind ((normal node).put before) nodes

end

mutual

def elements : XmlNode → List XmlNode
  | text _ => []
  | element name attributes children => element name attributes children :: elementsAll children

def elementsAll : List XmlNode → List XmlNode
  | [] => []
  | node :: nodes => elements node ++ elementsAll nodes

end

def Each (p : XmlNode → Prop) (t : XmlNode) : Prop := ∀ e ∈ t.elements, p e

instance (p : XmlNode → Prop) [DecidablePred p] (t : XmlNode) : Decidable (Each p t) :=
  inferInstanceAs (Decidable (∀ e ∈ t.elements, p e))

section each

variable {p q : XmlNode → Prop} {name : String} {attributes : List (String × String)}
  {children : List XmlNode}

theorem elementsAll_eq (nodes : List XmlNode) : elementsAll nodes = nodes.flatMap elements := by
  induction nodes with
  | nil => rfl
  | cons node nodes ih => rw [elementsAll, ih, List.flatMap_cons]

theorem elementsAll_append (nodes more : List XmlNode) :
    elementsAll (nodes ++ more) = elementsAll nodes ++ elementsAll more := by
  simp [elementsAll_eq]

@[simp] theorem each_text (s : String) : Each p (text s) := nofun

@[simp] theorem each_element : Each p (element name attributes children)
    ↔ p (element name attributes children) ∧ ∀ c ∈ children, Each p c := by
  simp only [Each, elements, elementsAll_eq, List.forall_mem_cons, List.mem_flatMap]
  exact and_congr_right fun _ => ⟨fun h c hc e he => h e ⟨c, hc, he⟩,
    fun h e ⟨c, hc, he⟩ => h c hc e he⟩

theorem Each.imp {t : XmlNode} (h : Each p t) (step : ∀ e, p e → q e) : Each q t :=
  fun e he => step e (h e he)

end each

/-- A tag that is written as a reader takes it. -/
def IsTag (tag : String × List (String × String)) : Prop :=
  Xml.IsName tag.1 ∧ (∀ a ∈ tag.2, Xml.IsName a.1) ∧ (tag.2.map (·.1)).Nodup

instance (tag : String × List (String × String)) : Decidable (IsTag tag) :=
  inferInstanceAs (Decidable (_ ∧ _ ∧ _))

def tag? : XmlNode → Option (String × List (String × String))
  | text _ => none
  | element name attributes _ => some (name, attributes)

def HasTag (p : String × List (String × String) → Prop) (e : XmlNode) : Prop := ∀ tag ∈ e.tag?, p tag

instance (p : String × List (String × String) → Prop) [DecidablePred p] :
    DecidablePred (HasTag p) := fun e => inferInstanceAs (Decidable (∀ tag ∈ e.tag?, p tag))

section normal

variable {p q : XmlNode → Prop}

theorem mem_put {c node : XmlNode} {nodes : List XmlNode} (h : c ∈ node.put nodes) :
    c = node ∨ c ∈ nodes ∨ ∃ s, c = text s := by
  unfold put at h
  split at h
  · exact (List.mem_cons.1 h).imp_right .inl
  · split at h
    · rcases List.mem_cons.1 h with rfl | h
      · exact .inr (.inr ⟨_, rfl⟩)
      · exact .inr (.inl (List.mem_cons_of_mem _ h))
    · split at h
      · exact .inr (.inl h)
      · exact (List.mem_cons.1 h).imp_right .inl

mutual

theorem each_normal (step : ∀ e, p e → q e.normal) (t : XmlNode) (h : t.Each p) :
    t.normal.Each q := by
  cases t with
  | text s => exact each_text s
  | element name attributes children =>
    obtain ⟨top, rest⟩ := each_element.1 h
    refine each_element.2 ⟨step _ top, fun c hc => ?_⟩
    exact each_normalBehind step children rest [] nofun c (List.mem_reverse.1 hc)

theorem each_normalBehind (step : ∀ e, p e → q e.normal) (nodes : List XmlNode)
    (h : ∀ c ∈ nodes, c.Each p) (before : List XmlNode) (earlier : ∀ c ∈ before, c.Each q) :
    ∀ c ∈ normalBehind before nodes, c.Each q := by
  cases nodes with
  | nil => exact earlier
  | cons node nodes =>
    obtain ⟨first, h⟩ := List.forall_mem_cons.1 h
    -- what is passed on is either this node, or has been passed before, or is a text
    refine each_normalBehind step nodes h _ fun c hc => ?_
    rcases mem_put hc with rfl | hc | ⟨s, rfl⟩
    · exact each_normal step node first
    · exact earlier c hc
    · exact each_text s

end

theorem normalBehind_element (name : String) (attributes : List (String × String))
    (children before nodes : List XmlNode) :
    normalBehind before (element name attributes children :: nodes)
      = normalBehind ((element name attributes children).normal :: before) nodes := by
  rw [normalBehind, normal]
  rfl

def isElement : XmlNode → Bool
  | text _ => false
  | element .. => true

theorem normalBehind_elements {nodes : List XmlNode} (before : List XmlNode)
    (h : ∀ c ∈ nodes, c.isElement = true) :
    normalBehind before nodes = (nodes.map normal).reverse ++ before := by
  induction nodes generalizing before with
  | nil => rfl
  | cons node nodes ih =>
    obtain ⟨first, rest⟩ := List.forall_mem_cons.1 h
    cases node with
    | text s => cases first
    | element name attributes children =>
      rw [normalBehind, ih _ rest]
      simp [put, normal]

theorem normal_element {name : String} {attributes : List (String × String)}
    {children : List XmlNode} (h : ∀ c ∈ children, c.isElement = true) :
    (element name attributes children).normal
      = element name attributes (children.map normal) := by
  rw [normal, normalBehind_elements [] h]
  simp

def content (s : String) : List XmlNode := if s = "" then [] else [text s]

theorem normal_text (name : String) (attributes : List (String × String)) (s : String) :
    (element name attributes [text s]).normal = element name attributes (content s) := by
  simp only [normal, normalBehind, put, content]
  split <;> rfl

end normal

section told

variable {name : String} {children : List XmlNode}

def inside? (name : String) : XmlNode → Option (List XmlNode)
  | text _ => none
  | element n _ children => if n = name then some children else none

def isNamed (name : String) (e : XmlNode) : Bool := (e.inside? name).isSome

def named (name : String) (nodes : List XmlNode) : List XmlNode := nodes.filter (·.isNamed name)

def told? (name : String) (e : XmlNode) : Option String :=
  match e.inside? name with
  | some [] => some ""
  | some [text s] => some s
  | _ => none

@[simp] theorem inside?_element (other : String) (attributes : List (String × String)) :
    (element other attributes children).inside? name
      = if other = name then some children else none := rfl

@[simp] theorem isNamed_element (other : String) (attributes : List (String × String)) :
    (element other attributes children).isNamed name = decide (other = name) := by
  by_cases same : other = name <;> simp [isNamed, same]

theorem isNamed_normal (e : XmlNode) : e.normal.isNamed name = e.isNamed name := by
  cases e with
  | text s => rfl
  | element other attributes children => simp [normal]

theorem named_map_normal (nodes : List XmlNode) :
    named name (nodes.map normal) = (named name nodes).map normal := by
  simp [named, List.filter_map, Function.comp_def, isNamed_normal]

theorem told?_text (attributes : List (String × String)) (s : String) :
    (element name attributes [text s]).normal.told? name = some s := by
  by_cases empty : s = "" <;> simp [normal_text, told?, content, empty]

theorem told?_leaf (s : String) : (leaf name s).normal.told? name = some s := told?_text [] s

end told

end XmlNode

namespace Xml

open XmlNode

namespace Draft

theorem put_empty (nodes : List XmlNode) : (text "").put nodes = nodes := by
  unfold put
  split
  · contradiction
  · split <;> simp_all

theorem put_put (a b : String) (nodes : List XmlNode) :
    (text b).put ((text a).put nodes) = (text (a ++ b)).put nodes := by
  by_cases none : a = ""
  · rw [none, put_empty, String.empty_append]
  · have some : a ++ b ≠ "" := by simp [none]
    cases nodes with
    | nil => simp [put, none, some]
    | cons node nodes => cases node <;> simp [put, none, some, String.append_assoc]

variable (d : Draft)

theorem read?_eq {e : Draft} {s : List Char} {step : Step} (next : d.next? s = some step)
    (after : d.after? step.event = some e) : d.read? s = e.read? step.rest := by
  rw [read?]
  split
  · rename_i none
    rw [next] at none
    cases none
  · rename_i found
    obtain rfl := Option.some.inj (next.symm.trans found)
    rw [after]

theorem next?_markup (s : List Char) :
    d.next? ('<' :: s) = some (markupStep (d.pending.map (·.name)) s) := by
  simp [next?]

theorem add_add (a b : String) : (d.add (.text a)).add (.text b) = d.add (.text (a ++ b)) := by
  simp [add, put_put]

/-- The text before the next tag is read as one. -/
theorem read?_run (s : List Char) : d.read? s
    = (unescape? (s.takeWhile (· != '<'))).bind fun t =>
      (d.add (.text (String.ofList t))).read? (s.dropWhile (· != '<')) := by
  have none_read : d.add (.text (String.ofList [])) = d := by simp [add, put_empty]
  cases s with
  | nil => simp [unescape?, none_read]
  | cons c s =>
    by_cases mark : c = '<'
    · simp [mark, unescape?, none_read]
    · have next : d.next? (c :: s) = some ⟨.text (c :: s.takeWhile (· != '<')),
          d.pending.map (·.name), s.dropWhile (· != '<')⟩ := by
        simp [next?, mark]
      rw [List.takeWhile_cons_of_pos (by simp [mark]), List.dropWhile_cons_of_pos (by simp [mark])]
      cases resolved : unescape? (c :: s.takeWhile (· != '<')) with
      | none =>
        rw [read?]
        split
        · rename_i absent
          rw [next] at absent
          cases absent
        · rename_i found
          obtain rfl := Option.some.inj (next.symm.trans found)
          simp [after?, resolved]
      | some t => exact read?_eq d next (by simp [after?, resolved])

theorem read?_escapeAll (s : String) (rest : List Char) :
    d.read? (escapeAll s ++ rest) = (d.add (.text s)).read? rest := by
  have inner : ∀ c ∈ escapeAll s, (c != '<') = true := by
    intro c hc
    simp [(mem_escapeAll hc).1]
  -- the written text and the text behind it are one event, on both sides up to the same tag
  rw [read?_run d, read?_run (d.add _), List.takeWhile_append_of_pos inner,
    List.dropWhile_append_of_pos inner, unescape?_append]
  cases unescape? (rest.takeWhile (· != '<')) with
  | none => rfl
  | some t => simp [add_add]

theorem read?_startTag {name : String} {attributes : List (String × String)}
    (tag : IsTag (name, attributes)) (rest : List Char) :
    d.read? (startTag name attributes ++ rest) = (d.enter name.toList attributes).read? rest := by
  have step := markupStep_startTag tag.1 tag.2.1 (d.pending.map (·.name)) rest
  have next : d.next? (startTag name attributes ++ rest) = some ⟨.start ⟨name.toList,
      attributes.flatMap attributeText⟩, name.toList :: d.pending.map (·.name), rest⟩ := by
    rw [← step, ← next?_markup]
    simp [startTag]
  refine read?_eq d next ?_
  rw [after?, values?_written _ tag.2.1 tag.2.2]
  rfl

theorem read?_endTag {name : String} (word : IsName name) (attributes : List (String × String))
    (before nodes : List XmlNode) (pending : List Pending) (rest : List Char) :
    Draft.read? ⟨⟨name.toList, attributes, before⟩ :: pending, nodes⟩ (endTag name ++ rest)
      = Draft.read? ⟨pending, element name attributes nodes.reverse :: before⟩ rest := by
  have step := markupStep_endTag word (pending.map (·.name)) rest
  have next : next? ⟨⟨name.toList, attributes, before⟩ :: pending, nodes⟩ (endTag name ++ rest)
      = some ⟨.finish name.toList, pending.map (·.name), rest⟩ := by
    rw [← step]
    simp [endTag, next?_markup]
  refine read?_eq _ next ?_
  simp [after?, leave?]

mutual

theorem read?_render (node : XmlNode) (tags : node.Each (HasTag IsTag)) (d : Draft)
    (rest : List Char) : d.read? (node.render ++ rest) = (d.add node.normal).read? rest := by
  cases node with
  | text s => exact read?_escapeAll d s rest
  | element name attributes children =>
    obtain ⟨tag, tags⟩ := each_element.1 tags
    have tag : IsTag (name, attributes) := tag _ rfl
    rw [render, List.append_assoc, List.append_assoc, read?_startTag d tag,
      read?_renderAll children tags, enter, read?_endTag tag.1]
    rfl

theorem read?_renderAll (nodes : List XmlNode) (tags : ∀ c ∈ nodes, c.Each (HasTag IsTag))
    (d : Draft) (rest : List Char) : d.read? (renderAll nodes ++ rest)
      = Draft.read? ⟨d.pending, normalBehind d.nodes nodes⟩ rest := by
  cases nodes with
  | nil => rfl
  | cons node nodes =>
    obtain ⟨first, tags⟩ := List.forall_mem_cons.1 tags
    rw [renderAll, List.append_assoc, read?_render node first, read?_renderAll nodes tags]
    rfl

end

end Draft

/-- A document is read as its root, also behind a text that is none of it. -/
theorem tree?_render {name : String} {attributes : List (String × String)} {children : List XmlNode}
    (tags : (element name attributes children).Each (HasTag IsTag)) {front : String}
    (aside : ∀ s, Draft.read? {} (front.toList ++ s) = Draft.read? {} s) :
    tree? (front ++ String.ofList (element name attributes children).render)
      = some (element name attributes children).normal := by
  have read := Draft.read?_render _ tags {} []
  rw [List.append_nil] at read
  rw [tree?, String.toList_append, String.toList_ofList, aside, read, Draft.read?]
  rfl

end Xml

end MapLayer
