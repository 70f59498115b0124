import MapLayer.Proofs.Xml.Tree

/-!
What the reader of events makes of a tree, however it is written: with more or fewer of its characters as
entities, with white space inside its tags, with quotes of either kind. Main statement: the events of the
document are the start tags, the texts and the end tags of the tree, in their order. A text may have lost white
space around it, and a blank one may be no event.
-/

namespace MapLayer

open MapLayer.Text MapLayer.Xml

namespace XmlNode

/-- The texts that nodes may be written as. Every element has a start tag and an end tag. -/
inductive Spells : List XmlNode → List Char → Prop
  | nil : Spells [] []
  | text {s : String} {raw doc : List Char} {nodes : List XmlNode} (plain : '<' ∉ raw)
      (resolved : unescape? raw = some s.toList) (behind : Spells nodes doc) :
      Spells (text s :: nodes) (raw ++ doc)
  | element {name : String} {attributes : List (String × String)} {children nodes : List XmlNode}
      {within inner gap doc : List Char} (word : IsName name)
      (spelled : SpellsAttributes attributes within) (inside : Spells children inner)
      (blank : IsGap gap) (behind : Spells nodes doc) :
      Spells (element name attributes children :: nodes)
        ('<' :: (name.toList ++ within ++ '>' :: (inner
          ++ '<' :: '/' :: (name.toList ++ gap ++ '>' :: doc))))

theorem spells_renderAll (nodes : List XmlNode) (tags : ∀ c ∈ nodes, c.Each (HasTag IsTag)) :
    Spells nodes (renderAll nodes) := by
  match nodes with
  | [] => exact .nil
  | text s :: nodes =>
    obtain ⟨-, tags⟩ := List.forall_mem_cons.1 tags
    exact .text (fun h => (mem_escapeAll h).1 rfl) (unescape?_escapeAll s) (spells_renderAll nodes tags)
  | element name attributes children :: nodes =>
    obtain ⟨first, tags⟩ := List.forall_mem_cons.1 tags
    obtain ⟨tag, within⟩ := each_element.1 first
    have tag : IsTag (name, attributes) := tag _ rfl
    have nothing : IsGap [] := nofun
    have spelled := Spells.element tag.1 (spellsAttributes_written tag.2.1)
      (spells_renderAll children within) nothing (spells_renderAll nodes tags)
    simpa [renderAll, render, startTag, endTag] using spelled

/-- The events that tell of nodes. -/
inductive Reports : List XmlNode → List Event → Prop
  | nil : Reports [] []
  | blank {s : String} {nodes : List XmlNode} {events : List Event} (blank : trim s.toList = [])
      (behind : Reports nodes events) : Reports (text s :: nodes) events
  | text {s : String} {raw letters : List Char} {nodes : List XmlNode} {events : List Event}
      (resolved : unescape? raw = some letters) (same : trim letters = trim s.toList)
      (behind : Reports nodes events) : Reports (text s :: nodes) (.text raw :: events)
  | element {name : String} {attributes : List (String × String)} {children nodes : List XmlNode}
      {inner events : List Event} (within : List Char) (inside : Reports children inner)
      (behind : Reports nodes events) : Reports (element name attributes children :: nodes)
        (.start ⟨name.toList, within⟩ :: (inner ++ .finish name.toList :: events))

theorem Reports.append {nodes more : List XmlNode} {events others : List Event}
    (h : Reports nodes events) (h' : Reports more others) :
    Reports (nodes ++ more) (events ++ others) := by
  induction h with
  | nil => exact h'
  | blank blank _ ih => exact .blank blank ih
  | text resolved same _ ih => exact .text resolved same ih
  | element within inside _ _ ih => simpa using Reports.element within inside ih

end XmlNode

namespace Xml

open XmlNode

section white

variable {raw s : List Char}

-- white space is no part of an entity, so that it is the same to trim before or after resolving them

theorem unescape?_skip (resolved : unescape? raw = some s) :
    ∃ t, unescape? (skip raw) = some t ∧ trim t = trim s := by
  have gap : IsGap (raw.takeWhile isSpacing) := fun c hc => List.mem_takeWhile_imp hc
  have whole : raw.takeWhile isSpacing ++ skip raw = raw := List.takeWhile_append_dropWhile
  rw [← whole, unescape?_plain (gap.not_mem (by decide)), Option.map_eq_some_iff] at resolved
  obtain ⟨t, resolved, rfl⟩ := resolved
  exact ⟨t, resolved, (trim_blank_append gap.blank t).symm⟩

theorem unescape?_trimRight (resolved : unescape? raw = some s) :
    ∃ t, unescape? (trimRight isSpacing raw) = some t ∧ trim t = trim s := by
  have gap : IsGap (raw.reverse.takeWhile isSpacing).reverse := fun d hd =>
    List.mem_takeWhile_imp (List.mem_reverse.1 hd)
  have whole : trimRight isSpacing raw ++ (raw.reverse.takeWhile isSpacing).reverse = raw := by
    rw [trimRight, ← List.reverse_append, List.takeWhile_append_dropWhile, List.reverse_reverse]
  rw [← whole, unescape?_behind (gap.not_mem (by decide)) (gap.not_mem (by decide)),
    Option.map_eq_some_iff] at resolved
  obtain ⟨t, resolved, rfl⟩ := resolved
  exact ⟨t, resolved, (trim_append_blank gap.blank t).symm⟩

end white

/-- Whether a text is over or goes on with markup. -/
def Ends (s : List Char) : Prop := ∀ c ∈ s.head?, c = '<'

theorem ends_nil : Ends [] := by simp [Ends]

theorem ends_markup (s : List Char) : Ends ('<' :: s) := by simp [Ends]

section reading

variable {opened : List (List Char)}

theorem eventsFrom_nil (opened : List (List Char)) : eventsFrom opened [] = [] := by
  simp [eventsFrom, skip]

theorem eventsFrom_skip (opened : List (List Char)) (s : List Char) :
    eventsFrom opened (skip s) = eventsFrom opened s := by
  have skipped : skip (skip s) = skip s := List.dropWhile_idempotent isSpacing s
  rw [eventsFrom.eq_def opened (skip s), eventsFrom.eq_def opened s, skipped]

theorem eventsFrom_gap {gap : List Char} (blank : IsGap gap) (rest : List Char) :
    eventsFrom opened (gap ++ rest) = eventsFrom opened rest := by
  rw [← eventsFrom_skip, skip, List.dropWhile_append_of_pos blank, ← skip, eventsFrom_skip]

theorem eventsFrom_markup {s : List Char} (more : s ≠ []) :
    eventsFrom opened ('<' :: s)
      = (markupStep opened s).event
        :: eventsFrom (markupStep opened s).opened (markupStep opened s).rest := by
  have skipped : skip ('<' :: s) = '<' :: s := rfl
  rw [eventsFrom]
  split <;> simp_all

theorem eventsFrom_run {c : Char} {s rest : List Char} (solid : isSpacing c = false)
    (plain : '<' ∉ c :: s) (ends : Ends rest) :
    eventsFrom opened (c :: s ++ rest)
      = .text (trimRight isSpacing (c :: s)) :: eventsFrom opened rest := by
  obtain ⟨first, plain⟩ := not_or.1 (mt List.mem_cons.2 plain)
  have inner : ∀ d ∈ s, (d != '<') = true := fun d hd => bne_iff_ne.2 fun same => plain (same ▸ hd)
  have skipped : skip (c :: s ++ rest) = c :: (s ++ rest) :=
    List.dropWhile_cons_of_neg (by simp [solid])
  have stops : rest.takeWhile (· != '<') = [] ∧ rest.dropWhile (· != '<') = rest := by
    cases rest with
    | nil => exact ⟨rfl, rfl⟩
    | cons d rest =>
      obtain rfl := ends d rfl
      exact ⟨rfl, rfl⟩
  rw [eventsFrom]
  split
  · rename_i none
    rw [skipped] at none
    cases none
  · rename_i found
    rw [skipped] at found
    cases found
    rw [if_neg (Ne.symm first), List.takeWhile_append_of_pos inner, List.dropWhile_append_of_pos inner,
      stops.1, stops.2, List.append_nil]

def runEvents (raw : List Char) : List Event :=
  if skip raw = [] then [] else [.text (trimRight isSpacing (skip raw))]

theorem eventsFrom_raw (opened : List (List Char)) {raw rest : List Char} (plain : '<' ∉ raw)
    (ends : Ends rest) : eventsFrom opened (raw ++ rest) = runEvents raw ++ eventsFrom opened rest := by
  have gap : IsGap (raw.takeWhile isSpacing) := fun c hc => List.mem_takeWhile_imp hc
  have whole : raw.takeWhile isSpacing ++ skip raw = raw := List.takeWhile_append_dropWhile
  have front : eventsFrom opened (raw ++ rest) = eventsFrom opened (skip raw ++ rest) := by
    conv_lhs => rw [← whole, List.append_assoc, eventsFrom_gap gap]
  rw [front, runEvents]
  cases letters : skip raw with
  | nil => rfl
  | cons c u =>
    have solid : isSpacing c = false := by
      have first := List.head?_dropWhile_not isSpacing raw
      rw [← skip, letters] at first
      simpa using first
    have inside : '<' ∉ c :: u := fun h => plain ((List.dropWhile_sublist _).mem (letters ▸ h))
    exact eventsFrom_run solid inside ends

/-- A text that is written is told as what it resolves to, but for the white space around it. -/
theorem runEvents_cases {raw s : List Char} (resolved : unescape? raw = some s) :
    (runEvents raw = [] ∧ trim s = []) ∨
      ∃ r t, runEvents raw = [.text r] ∧ unescape? r = some t ∧ trim t = trim s := by
  obtain ⟨t, skipped, same⟩ := unescape?_skip resolved
  rw [runEvents]
  split
  · rename_i blank
    rw [blank, unescape?] at skipped
    cases skipped
    exact .inl ⟨rfl, same.symm⟩
  · obtain ⟨u, trimmed, alike⟩ := unescape?_trimRight skipped
    exact .inr ⟨_, u, rfl, trimmed, alike.trans same⟩

theorem eventsFrom_text (opened : List (List Char)) {raw rest : List Char} {s : String} (plain : '<' ∉ raw)
    (resolved : unescape? raw = some s.toList) (ends : Ends rest) :
    ∃ events, eventsFrom opened (raw ++ rest) = events ++ eventsFrom opened rest ∧
      Reports [text s] events := by
  refine ⟨_, eventsFrom_raw opened plain ends, ?_⟩
  obtain ⟨none, blank⟩ | ⟨r, t, one, read, same⟩ := runEvents_cases resolved
  · rw [none]
    exact .blank blank .nil
  · rw [one]
    exact .text read same .nil

/-- A text stands apart from what is before it if that is no text. -/
theorem eventsFrom_put (opened : List (List Char)) {before : List XmlNode} {past : List Event}
    (apart : ∀ e ∈ before.head?, e.isElement = true) (told : Reports before.reverse past)
    {raw rest : List Char} {s : String} (plain : '<' ∉ raw)
    (resolved : unescape? raw = some s.toList) (ends : Ends rest) :
    ∃ events, eventsFrom opened (raw ++ rest) = events ++ eventsFrom opened rest ∧
      Reports ((text s).put before).reverse (past ++ events) := by
  by_cases empty : s = ""
  · subst empty
    obtain rfl := eq_nil_of_unescape? resolved
    exact ⟨[], rfl, by simpa [Draft.put_empty] using told⟩
  · have put : (text s).put before = text s :: before := by
      unfold XmlNode.put
      split
      · contradiction
      · split
        · cases apart _ rfl
        · simp_all
    obtain ⟨events, read, report⟩ := eventsFrom_text opened plain resolved ends
    refine ⟨events, read, ?_⟩
    rw [put, List.reverse_cons]
    exact told.append report

theorem eventsFrom_element {name : String} (attributes : List (String × String))
    {children : List XmlNode} {within inner gap rest : List Char} {held : List Event}
    (word : IsName name) (spelled : SpellsAttributes attributes within) (blank : IsGap gap)
    (read : eventsFrom (name.toList :: opened)
        (inner ++ '<' :: '/' :: (name.toList ++ gap ++ '>' :: rest))
      = held ++ eventsFrom (name.toList :: opened) ('<' :: '/' :: (name.toList ++ gap ++ '>' :: rest)))
    (told : Reports children held) :
    ∃ events, eventsFrom opened ('<' :: (name.toList ++ within
          ++ '>' :: (inner ++ '<' :: '/' :: (name.toList ++ gap ++ '>' :: rest))))
        = events ++ eventsFrom opened rest ∧
      Reports [element name attributes children] events := by
  refine ⟨_, ?_, .element within told .nil⟩
  rw [eventsFrom_markup (by simp), markupStep_start word spelled.isTagRest, read, eventsFrom_markup (by simp),
    markupStep_finish word blank]
  simp

/-- What is read of nodes behind others, of which the last one stands first, and of a text that is still
being written. -/
theorem eventsFrom_spelled {nodes : List XmlNode} {doc : List Char} (spelled : Spells nodes doc)
    {before : List XmlNode} {past : List Event} (apart : ∀ e ∈ before.head?, e.isElement = true)
    (told : Reports before.reverse past) {raw : List Char} {s : String} (plain : '<' ∉ raw)
    (resolved : unescape? raw = some s.toList) (opened : List (List Char)) {rest : List Char}
    (ends : Ends rest) :
    ∃ events, eventsFrom opened (raw ++ (doc ++ rest)) = events ++ eventsFrom opened rest ∧
      Reports (normalBehind ((text s).put before) nodes).reverse (past ++ events) := by
  induction spelled generalizing before past raw s opened rest with
  | nil => exact eventsFrom_put opened apart told plain resolved ends
  | @text t r doc nodes plain' resolved' behind ih =>
    -- the two texts are read as one
    have joined : unescape? (raw ++ r) = some (s ++ t).toList := by
      rw [unescape?_before resolved, resolved', String.toList_append]
      rfl
    obtain ⟨events, read, report⟩ := ih apart told (by simp [plain, plain']) joined opened ends
    refine ⟨events, by rw [← read]; simp, ?_⟩
    rw [normalBehind, XmlNode.normal, Draft.put_put]
    exact report
  | @element name attributes children nodes within inner gap doc word spelled inside blank behind
      inside_ih behind_ih =>
    have alone : ∀ e ∈ [].head?, isElement e = true := by simp
    have nothing : unescape? [] = some "".toList := by simp [unescape?]
    obtain ⟨held, held_read, held_told⟩ := inside_ih alone .nil List.not_mem_nil nothing
      (name.toList :: opened) (ends_markup ('/' :: (name.toList ++ gap ++ '>' :: (doc ++ rest))))
    rw [Draft.put_empty, List.nil_append] at held_told
    rw [List.nil_append] at held_read
    obtain ⟨now, now_read, now_told⟩ :=
      eventsFrom_element attributes word spelled blank held_read held_told
    rw [← XmlNode.normal] at now_told
    obtain ⟨first, first_read, first_told⟩ := eventsFrom_put opened apart told plain resolved
      (ends_markup (name.toList ++ within
        ++ '>' :: (inner ++ '<' :: '/' :: (name.toList ++ gap ++ '>' :: (doc ++ rest)))))
    have apart : ∀ e ∈ ((element name attributes children).normal :: (text s).put before).head?,
        e.isElement = true := by simp [XmlNode.normal, isElement]
    have told : Reports ((element name attributes children).normal :: (text s).put before).reverse
        (past ++ first ++ now) := by
      rw [List.reverse_cons]
      exact first_told.append now_told
    obtain ⟨later, later_read, later_told⟩ := behind_ih apart told List.not_mem_nil nothing opened ends
    refine ⟨first ++ (now ++ later), ?_, ?_⟩
    · rw [List.nil_append] at later_read
      rw [List.append_assoc first, List.append_assoc now, ← later_read, ← now_read, ← first_read]
      simp
    · rw [Draft.put_empty] at later_told
      rw [normalBehind_element]
      simpa using later_told

end reading

/-- The events of a document tell of its tree. -/
theorem reports_spelled {name : String} {attributes : List (String × String)} {children : List XmlNode}
    {doc : List Char} (spelled : Spells [element name attributes children] doc) :
    Reports [(element name attributes children).normal] (events doc) := by
  have alone : ∀ e ∈ [].head?, isElement e = true := by simp
  have nothing : unescape? [] = some "".toList := by simp [unescape?]
  obtain ⟨told, read, report⟩ := eventsFrom_spelled spelled alone .nil List.not_mem_nil nothing [] ends_nil
  have unmarked : events doc = eventsFrom [] doc := by
    cases spelled
    rw [events.eq_def]
    simp
  rw [List.nil_append, List.append_nil, eventsFrom_nil, List.append_nil] at read
  rw [Draft.put_empty, normalBehind_element, normalBehind, List.nil_append] at report
  rwa [unmarked, read]

end Xml

end MapLayer
