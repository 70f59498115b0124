import MapLayer.Proofs.Xml.Markup
import MapLayer.Proofs.Response.Capabilities

/-!
Capabilities documents that mean the same but are written differently: an element without content by one tag or
by two, a text with entities or in a section of its own. Main statement: both are read alike if no layer
inside another one and no name or title is what is written differently. Those make a difference.
-/

namespace MapLayer

open MapLayer.Text MapLayer.Xml

namespace Xml

open Markup

/-- The same pieces, some of them written differently. Those are `free` to be, inside elements of some names,
the innermost first. -/
inductive Respelled (free : List (List Char) → Markup → Prop) :
    List (List Char) → List Markup → List Markup → Prop
  | nil {path : List (List Char)} : Respelled free path [] []
  | same {path : List (List Char)} {pieces others : List Markup} (piece : Markup)
      (behind : Respelled free path pieces others) :
      Respelled free path (piece :: pieces) (piece :: others)
  | inside {path : List (List Char)} {name : String} {within gap : List Char}
      {inner inner' pieces others : List Markup}
      (inside : Respelled free (localName name.toList :: path) inner inner')
      (behind : Respelled free path pieces others) :
      Respelled free path (element name within inner gap :: pieces)
        (element name within inner' gap :: others)
  | closed {path : List (List Char)} {name : String} {within gap : List Char} {pieces others : List Markup}
      (allowed : free path (closed name within)) (behind : Respelled free path pieces others) :
      Respelled free path (element name within [] gap :: pieces) (closed name within :: others)
  | opened {path : List (List Char)} {name : String} {within gap : List Char} {pieces others : List Markup}
      (blank : IsGap gap) (allowed : free path (closed name within))
      (behind : Respelled free path pieces others) :
      Respelled free path (closed name within :: pieces) (element name within [] gap :: others)
  | data {path : List (List Char)} {raw letters : List Char} {pieces others : List Markup}
      (resolved : unescape? raw = some letters) (uncut : occursIn [']', ']', '>'] letters = false)
      (allowed : free path (data letters)) (behind : Respelled free path pieces others) :
      Respelled free path (text raw :: pieces) (data letters :: others)

namespace Respelled

variable {free : List (List Char) → Markup → Prop} {path : List (List Char)} {pieces others : List Markup}

theorem mem_text (h : Respelled free path pieces others) {raw : List Char} (found : text raw ∈ others) :
    text raw ∈ pieces := by
  induction h with
  | nil => exact found
  | same piece _ ih => exact List.mem_cons.2 ((List.mem_cons.1 found).imp_right ih)
  | inside | closed | opened | data =>
    rename_i ih
    obtain other | found := List.mem_cons.1 found
    · cases other
    · exact .tail _ (ih found)

theorem apart (h : Respelled free path pieces others)
    (apart : ∀ piece ∈ pieces.head?, piece.isText = false) :
    ∀ piece ∈ others.head?, piece.isText = false := by
  cases h with
  | nil | same => exact apart
  | inside | closed | opened | data => simp [isText]

theorem wellFormed (h : Respelled free path pieces others) (written : WellFormed pieces) :
    WellFormed others := by
  induction h with
  | nil => exact .nil
  | same piece behind ih =>
    cases written with
    | text plain apart written => exact .text plain (behind.apart apart) (ih written)
    | data uncut written => exact .data uncut (ih written)
    | comment uncut written => exact .comment uncut (ih written)
    | instruction filled uncut written => exact .instruction filled uncut (ih written)
    | documentType filled nested written => exact .documentType filled nested (ih written)
    | element word spelled inside blank written => exact .element word spelled inside blank (ih written)
    | closed word spelled written => exact .closed word spelled (ih written)
  | inside _ _ inside_ih ih =>
    cases written with
    | element word spelled inside blank written =>
      exact .element word spelled (inside_ih inside) blank (ih written)
  | closed _ _ ih =>
    cases written with
    | element word spelled _ _ written => exact .closed word spelled (ih written)
  | opened blank _ _ ih =>
    cases written with
    | closed word spelled written => exact .element word spelled .nil blank (ih written)
  | data _ uncut _ _ ih =>
    cases written with
    | text _ _ written => exact .data uncut (ih written)

theorem isDocument (h : Respelled free path pieces others) (written : IsDocument pieces) :
    IsDocument others :=
  ⟨h.wellFormed written.written, fun raw found => written.blank raw (h.mem_text found)⟩

end Respelled

end Xml

namespace Capabilities

/-- Whether reading a capabilities document makes no difference between the ways to write a piece. A tag that
closes itself is no layer inside another one, and a section is no name and no title. -/
def Unheard (path : List (List Char)) : Markup → Prop
  | .closed name _ => localName name.toList = layerName → layerName ∉ path
  | .data letters => trim letters = [] ∨ path.take 2 ∉
      [["Title".toList, "Service".toList], ["Name".toList, layerName], ["Title".toList, layerName]]
  | _ => True

instance (path : List (List Char)) : (piece : Markup) → Decidable (Unheard path piece)
  | .closed .. => inferInstanceAs (Decidable (_ → _))
  | .data _ => inferInstanceAs (Decidable (_ ∨ _))
  | .text _ | .comment _ | .instruction _ | .documentType _ | .element .. => inferInstanceAs (Decidable True)

/-- What is read inside elements of some names. -/
structure Fits (path : List (List Char)) (st : State) : Prop where
  place : st.path = path
  depth : st.frames.length = path.count layerName

namespace Fits

variable {path : List (List Char)} {st : State} {name : List Char}

theorem length_onFrame (f : Frame → Frame) (frames : List Frame) :
    (onFrame f frames).length = frames.length := by
  cases frames <;> rfl

theorem enter (h : Fits path st) (name : List Char) : Fits (name :: path) (st.enter name) := by
  refine ⟨congrArg (name :: ·) h.place, ?_⟩
  by_cases layer : name = layerName
  · simp [State.enter, layer, length_onFrame, h.depth]
  · simp [State.enter, layer, h.depth]

theorem leave (h : Fits (name :: path) st) : Fits path (st.leave name) := by
  have tail : st.path.tail = path := by rw [h.place, List.tail_cons]
  have depth := h.depth
  by_cases layer : name = layerName
  · cases open' : st.frames with
    | nil => simp [open', layer] at depth
    | cons frame rest =>
      refine ⟨by simp [State.leave, layer, open', tail], ?_⟩
      simpa [State.leave, layer, open'] using depth
  · exact ⟨by simp [State.leave, layer, tail], by simpa [State.leave, layer] using depth⟩

theorem read (h : Fits path st) (said : String) : Fits path (st.read said) := by
  rw [State.read_placed]
  split_ifs
  all_goals exact ⟨h.place, by simp [length_onFrame, h.depth]⟩

theorem next_text (h : Fits path st) {raw : List Char} {st' : State}
    (read : st.next (.text raw) = .ok st') : Fits path st' := by
  rw [State.next] at read
  split at read
  · cases read
  · cases read
    split
    · exact h
    · exact h.read _

/-- An element without content changes nothing, but for a layer inside another one. -/
theorem leave_enter (h : Fits path st) (unheard : name = layerName → layerName ∉ path) :
    (st.enter name).leave name = st := by
  by_cases layer : name = layerName
  · have none : st.frames = [] := by
      rw [← List.length_eq_zero_iff, h.depth, List.count_eq_zero]
      exact unheard layer
    obtain ⟨path, frames, found⟩ := st
    obtain rfl : frames = [] := none
    simp [State.enter, State.leave, layer, onFrame, Frame.layer?]
  · simp [State.enter, State.leave, layer]

theorem read_eq (h : Fits path st) (unheard : path.take 2 ∉
      [["Title".toList, "Service".toList], ["Name".toList, layerName], ["Title".toList, layerName]])
    (said : String) : st.read said = st := by
  simp only [List.mem_cons, List.not_mem_nil, or_false, not_or] at unheard
  rw [State.read_placed, h.place, if_neg unheard.1, if_neg unheard.2.1, if_neg unheard.2.2]

end Fits

def Idle (path : List (List Char)) (events : List Event) : Prop :=
  ∀ st, Fits path st → events.foldlM State.next st = .ok st

/-- Events that are read alike inside elements of some names, and close what they open. -/
def Matches (path : List (List Char)) (events others : List Event) : Prop :=
  ∀ st, Fits path st → events.foldlM State.next st = others.foldlM State.next st ∧
    ∀ st', events.foldlM State.next st = .ok st' → Fits path st'

section reading

open Markup

variable {path : List (List Char)}

theorem Idle.matches {events others : List Event} (first : Idle path events) (second : Idle path others) :
    Matches path events others := by
  intro st fits
  rw [first st fits, second st fits]
  refine ⟨rfl, fun st' same => ?_⟩
  cases same
  exact fits

theorem Matches.append {a b c d : List Event} (first : Matches path a b) (second : Matches path c d) :
    Matches path (a ++ c) (b ++ d) := by
  intro st fits
  obtain ⟨same, kept⟩ := first st fits
  rw [List.foldlM_append, List.foldlM_append, ← same]
  cases read : a.foldlM State.next st with
  | error e => exact ⟨rfl, nofun⟩
  | ok st' => exact second st' (kept st' read)

theorem Matches.element {name : String} {within : List Char} {inner inner' : List Event}
    (inside : Matches (localName name.toList :: path) inner inner') :
    Matches path (.start ⟨name.toList, within⟩ :: (inner ++ [.finish name.toList]))
      (.start ⟨name.toList, within⟩ :: (inner' ++ [.finish name.toList])) := by
  intro st fits
  obtain ⟨same, kept⟩ := inside _ (fits.enter _)
  have start (events : List Event) : (Event.start ⟨name.toList, within⟩ :: events).foldlM State.next st
      = events.foldlM State.next (st.enter (localName name.toList)) := rfl
  rw [start, start, List.foldlM_append, List.foldlM_append, ← same]
  cases read : inner.foldlM State.next (st.enter (localName name.toList)) with
  | error e => exact ⟨rfl, nofun⟩
  | ok st' =>
    refine ⟨rfl, fun left closed => ?_⟩
    cases closed
    exact (kept st' read).leave

theorem matches_runEvents (raw : List Char) : Matches path (runEvents raw) (runEvents raw) := by
  intro st fits
  refine ⟨rfl, fun st' read => ?_⟩
  rw [runEvents] at read
  split at read
  · cases read
    exact fits
  · rw [List.foldlM_cons, Outcome.bind_eq_ok] at read
    obtain ⟨next, read, last⟩ := read
    cases last
    exact fits.next_text read

theorem matches_toldAll (pieces : List Markup) (path : List (List Char)) :
    Matches path (toldAll pieces) (toldAll pieces) := by
  cases pieces with
  | nil => exact Idle.matches (fun _ _ => rfl) (fun _ _ => rfl)
  | cons piece pieces =>
    refine Matches.append ?_ (matches_toldAll pieces path)
    cases piece with
    | text raw => exact matches_runEvents raw
    | element name within inner gap => exact (matches_toldAll inner _).element
    | instruction s =>
      rw [told]
      split
      · intro st _
        exact ⟨rfl, fun st' read => by cases read⟩
      · exact Idle.matches (fun _ _ => rfl) (fun _ _ => rfl)
    | data | comment | documentType | closed => exact Idle.matches (fun _ _ => rfl) (fun _ _ => rfl)

theorem idle_element {name : String} (unheard : localName name.toList = layerName → layerName ∉ path)
    (within gap : List Char) : Idle path (told (.element name within [] gap)) := by
  intro st fits
  show Except.ok ((st.enter (localName name.toList)).leave (localName name.toList)) = _
  rw [fits.leave_enter unheard]

theorem idle_runEvents {raw letters : List Char} (resolved : unescape? raw = some letters)
    (unheard : Unheard path (.data letters)) : Idle path (runEvents raw) := by
  intro st fits
  obtain ⟨none, -⟩ | ⟨r, t, one, read, same⟩ := runEvents_cases resolved
  · rw [none]
    rfl
  · have next : st.next (.text r) = .ok st := by
      rw [State.next, read]
      dsimp only
      rw [same]
      obtain blank | apart := unheard
      · rw [if_pos blank]
      · rw [fits.read_eq apart, ite_self]
    rw [one, List.foldlM_cons, next]
    rfl

/-- The two ways to write a piece give different events, but neither says anything. -/
theorem matches_respelled {pieces others : List Markup} (h : Respelled Unheard path pieces others) :
    Matches path (toldAll pieces) (toldAll others) := by
  induction h with
  | nil => exact matches_toldAll [] _
  | @same path _ _ piece _ ih =>
    have alone := matches_toldAll [piece] path
    rw [toldAll, toldAll, List.append_nil] at alone
    exact alone.append ih
  | inside _ _ inside_ih ih => exact inside_ih.element.append ih
  | closed unheard _ ih => exact ((idle_element unheard _ _).matches fun _ _ => rfl).append ih
  | opened _ unheard _ ih => exact (Idle.matches (fun _ _ => rfl) (idle_element unheard _ _)).append ih
  | data resolved _ unheard _ ih =>
    exact ((idle_runEvents resolved unheard).matches fun _ _ => rfl).append ih

end reading

theorem parse_document {pieces : List Markup} (written : IsDocument pieces) (marked : Bool) :
    parse (document marked pieces) = State.found <$> (Markup.toldAll pieces).foldlM State.next {} := by
  have stops : ∀ st, ∃ e, State.next st .malformed = .error e := fun _ => ⟨_, rfl⟩
  have alike := alike_told stops written.written [] ends_nil
  rw [List.append_nil, eventsFrom_nil, List.append_nil] at alike
  rw [parse, events_document marked written, alike]

/-- A document that is written differently says the same, if what makes a difference is left as it is. -/
theorem parse_respelled {pieces others : List Markup} (written : IsDocument pieces)
    (respelled : Respelled Unheard [] pieces others) (marked : Bool) :
    parse (document marked pieces) = parse (document marked others) := by
  have fits : Fits [] {} := ⟨rfl, rfl⟩
  rw [parse_document written, parse_document (respelled.isDocument written),
    (matches_respelled respelled _ fits).1]

section examples

open Markup

def holding (name : String) (piece : Markup) : Markup := element name [] [piece] []

theorem wellFormed_holding {name : String} {raw : List Char} {pieces : List Markup} (word : IsName name)
    (plain : '<' ∉ raw) (behind : WellFormed pieces) :
    WellFormed (holding name (text raw) :: pieces) :=
  .element word (.nil nofun) (.text plain (by simp) .nil) nofun behind

def versioned : List Char := [("version", "1.3.0")].flatMap XmlNode.attributeText

/-- A service with a document type and a remark, a fee, a layer with a note and keywords, and a last layer. -/
def plants (fees note keywords last : Markup) : List Markup :=
  [instruction "xml version='1.0'".toList, text ['\n'],
    documentType (" C [".toList ++ '<' :: ("!ELEMENT C ANY".toList ++ '>' :: [']'])),
    comment " groups > layers ".toList,
    element "C" versioned
      [element "Service" [] [holding "Title" (text "Plants &amp; mines".toList), fees] [],
        element "Layer" []
          [holding "Name" (text "plant".toList), holding "Abstract" note, keywords] ['\n'],
        last] []]

theorem parse_respelled_plants :
    let long := plants (element "Fees" [] [] []) (text "a &gt; b".toList) (closed "Keywords" versioned)
      (element "Layer" [] [] [' '])
    let short := plants (closed "Fees" []) (data "a > b".toList) (element "Keywords" versioned [] [])
      (closed "Layer" [])
    IsDocument long ∧ Respelled Unheard [] long short ∧
      parse (document true long) = parse (document true short) ∧
      parse (document true short) = .ok ⟨some "Plants & mines", [⟨"plant", "plant"⟩]⟩ := by
  intro long short
  have attributes : IsTagRest versioned :=
    (spellsAttributes_written (by decide : ∀ a ∈ [("version", "1.3.0")], IsName a.1)).isTagRest
  have bare : IsTagRest [] := .nil nofun
  have white : IsGap ['\n'] ∧ IsGap [' '] := by simp [IsGap, isSpacing]
  have kinds : Nested (" C [".toList ++ '<' :: ("!ELEMENT C ANY".toList ++ '>' :: [']'])) :=
    .after (by decide) (.pair (.of_plain (by decide)) (.of_plain (by decide)))
  have about : WellFormed [holding "Title" (text "Plants &amp; mines".toList), element "Fees" [] [] []] :=
    wellFormed_holding (by decide) (by decide) (.element (by decide) bare .nil nofun .nil)
  have layer : WellFormed [holding "Name" (text "plant".toList),
      holding "Abstract" (text "a &gt; b".toList), closed "Keywords" versioned] :=
    wellFormed_holding (by decide) (by decide) <|
      wellFormed_holding (by decide) (by decide) (.closed (by decide) attributes .nil)
  have written : IsDocument long :=
    { written := .instruction (by decide) (by decide) <| .text (by decide) (by simp [isText]) <|
        .documentType (by decide) kinds <| .comment (by decide) <|
          .element (by decide) attributes
            (.element (by decide) bare about nofun <| .element (by decide) bare layer white.1 <|
              .element (by decide) bare .nil white.2 .nil)
            nofun .nil
      blank := by simp [long, plants, white] }
  have respelled : Respelled Unheard [] long short :=
    .same _ <| .same _ <| .same _ <| .same _ <| .inside
      (.inside (.same _ <| .closed (by decide) .nil) <|
        .inside
          (.same _ <| .inside
            (.data (by decide +kernel) (by decide) (by decide) .nil) <|
            .opened nofun (by decide) .nil) <|
        .closed (by decide) .nil) .nil
  refine ⟨written, respelled, parse_respelled written respelled true, ?_⟩
  rw [parse_document (respelled.isDocument written)]
  decide +kernel

def service (inner : List Markup) : List Markup := [element "C" [] [element "Layer" [] inner []] []]

theorem isDocument_service {inner : List Markup} (written : WellFormed inner) :
    IsDocument (service inner) where
  written := .element (by decide) (.nil nofun)
    (.element (by decide) (.nil nofun) written nofun .nil) nofun .nil
  blank := by simp [service]

/-- A layer inside another one that is written with one tag is none, and nor is a name in a section. -/
theorem parse_respelled_ne :
    let name := holding "Name" (text ['a'])
    let long := service [name, element "Layer" [] [] []]
    let short := service [name, closed "Layer" []]
    let escaped := service [name]
    let apart := service [holding "Name" (data ['a'])]
    (IsDocument long ∧ Respelled (fun _ _ => True) [] long short ∧
      parse (document false long) = .ok {} ∧
      parse (document false short) = .ok { layers := [⟨"a", "a"⟩] }) ∧
    (IsDocument escaped ∧ Respelled (fun _ _ => True) [] escaped apart ∧
      parse (document false escaped) = .ok { layers := [⟨"a", "a"⟩] } ∧
      parse (document false apart) = .ok {}) := by
  intro name long short escaped apart
  have named {pieces : List Markup} (behind : WellFormed pieces) : WellFormed (name :: pieces) :=
    wellFormed_holding (by decide) (by decide) behind
  have group : IsDocument long :=
    isDocument_service (named (.element (by decide) (.nil nofun) .nil nofun .nil))
  have leaf : IsDocument escaped := isDocument_service (named .nil)
  have shortened : Respelled (fun _ _ => True) [] long short :=
    .inside (.inside (.same name (.closed trivial .nil)) .nil) .nil
  have moved : Respelled (fun _ _ => True) [] escaped apart :=
    .inside (.inside (.inside (.data (by simp [unescape?]) rfl trivial .nil) .nil) .nil) .nil
  refine ⟨⟨group, shortened, ?_, ?_⟩, leaf, moved, ?_, ?_⟩
  · rw [parse_document group]
    decide +kernel
  · rw [parse_document (shortened.isDocument group)]
    decide +kernel
  · rw [parse_document leaf]
    decide +kernel
  · rw [parse_document (moved.isDocument leaf)]
    decide +kernel

end examples

end Capabilities

end MapLayer
