import MapLayer.Proofs.Xml.Events

/-!
Documents as they are written: elements with two tags or with one that closes itself, character data with
entities or in a section of its own, comments, instructions and document types. Main statement: a document that
is written properly is read piece by piece.
-/

namespace MapLayer.Xml

open MapLayer.Text

/-- A piece of a document. Tags keep what stands behind their names, and comments and the like what stands
between their marks. -/
inductive Markup
  | text (raw : List Char)
  | data (letters : List Char)
  | comment (s : List Char)
  | instruction (s : List Char)
  | documentType (s : List Char)
  | element (name : String) (within : List Char) (inner : List Markup) (gap : List Char)
  | closed (name : String) (within : List Char)

/-- A text in which angle brackets come in pairs. -/
inductive Nested : List Char → Prop
  | nil : Nested []
  | cons {c : Char} {s : List Char} (plain : c ≠ '<' ∧ c ≠ '>') (behind : Nested s) : Nested (c :: s)
  | pair {s t : List Char} (inside : Nested s) (behind : Nested t) : Nested ('<' :: (s ++ '>' :: t))

theorem Nested.after {s t : List Char} (plain : ∀ c ∈ s, c ≠ '<' ∧ c ≠ '>') (behind : Nested t) :
    Nested (s ++ t) := by
  induction s with
  | nil => exact behind
  | cons c s ih =>
    obtain ⟨first, plain⟩ := List.forall_mem_cons.1 plain
    exact .cons first (ih plain)

theorem Nested.of_plain {s : List Char} (plain : ∀ c ∈ s, c ≠ '<' ∧ c ≠ '>') : Nested s := by
  simpa using Nested.after plain .nil

namespace Markup

mutual

def chars : Markup → List Char
  | text raw => raw
  | data letters => '<' :: '!' :: ("[CDATA[".toList ++ letters ++ [']', ']', '>'])
  | comment s => '<' :: '!' :: '-' :: '-' :: (s ++ ['-', '-', '>'])
  | instruction s => '<' :: '?' :: (s ++ ['?', '>'])
  | documentType s => '<' :: '!' :: ("DOCTYPE".toList ++ s ++ ['>'])
  | element name within inner gap =>
    '<' :: (name.toList ++ within ++ '>' :: (charsAll inner
      ++ '<' :: '/' :: (name.toList ++ gap ++ ['>'])))
  | closed name within => '<' :: (name.toList ++ within ++ ['/', '>'])

def charsAll : List Markup → List Char
  | [] => []
  | piece :: pieces => chars piece ++ charsAll pieces

end

def isText : Markup → Bool
  | text _ => true
  | _ => false

/-- What is asked of the pieces of a document. A run of character data is one piece, and the marks at the end of
a section, a comment or an instruction stand there only. -/
inductive WellFormed : List Markup → Prop
  | nil : WellFormed []
  | text {raw : List Char} {pieces : List Markup} (plain : '<' ∉ raw)
      (apart : ∀ piece ∈ pieces.head?, piece.isText = false) (behind : WellFormed pieces) :
      WellFormed (text raw :: pieces)
  | data {letters : List Char} {pieces : List Markup} (uncut : occursIn [']', ']', '>'] letters = false)
      (behind : WellFormed pieces) : WellFormed (data letters :: pieces)
  | comment {s : List Char} {pieces : List Markup} (uncut : occursIn ['-', '-', '>'] s = false)
      (behind : WellFormed pieces) : WellFormed (comment s :: pieces)
  | instruction {s : List Char} {pieces : List Markup} (filled : s ≠ [])
      (uncut : occursIn ['?', '>'] s = false) (behind : WellFormed pieces) :
      WellFormed (instruction s :: pieces)
  | documentType {s : List Char} {pieces : List Markup} (filled : skip s ≠ []) (nested : Nested s)
      (behind : WellFormed pieces) : WellFormed (documentType s :: pieces)
  | element {name : String} {within gap : List Char} {inner pieces : List Markup} (word : IsName name)
      (spelled : IsTagRest within) (inside : WellFormed inner) (blank : IsGap gap)
      (behind : WellFormed pieces) : WellFormed (element name within inner gap :: pieces)
  | closed {name : String} {within : List Char} {pieces : List Markup} (word : IsName name)
      (spelled : IsTagRest within) (behind : WellFormed pieces) :
      WellFormed (closed name within :: pieces)

mutual

/-- The events of a piece. An instruction that holds a bracket is more than the reader takes. -/
def told : Markup → List Event
  | text raw => runEvents raw
  | data letters => [.data letters]
  | comment _ | documentType _ => [.aside]
  | instruction s => if '>' ∈ s then [.malformed] else [.aside]
  | element name within inner _ =>
    .start ⟨name.toList, within⟩ :: (toldAll inner ++ [.finish name.toList])
  | closed name within => [.empty ⟨name.toList, within⟩]

def toldAll : List Markup → List Event
  | [] => []
  | piece :: pieces => told piece ++ toldAll pieces

end

end Markup

section steps

variable {opened : List (List Char)}

theorem typeBody?_nested {s : List Char} (nested : Nested s) (d : Nat) (rest : List Char) :
    typeBody? d (s ++ rest) = (typeBody? d rest).map fun (body, behind) => (s ++ body, behind) := by
  induction nested generalizing d rest with
  | nil => simp
  | @cons c s plain _ ih =>
    have passes : typeBody? d (c :: (s ++ rest))
        = (typeBody? d (s ++ rest)).map fun (body, behind) => (c :: body, behind) := by
      simp [typeBody?, plain.1, plain.2]
    rw [List.cons_append, passes, ih, Option.map_map]
    rfl
  | @pair s t _ _ inside_ih ih =>
    have opens : typeBody? d ('<' :: (s ++ '>' :: (t ++ rest)))
        = (typeBody? (d + 1) (s ++ '>' :: (t ++ rest))).map fun (body, behind) => ('<' :: body, behind) := by
      simp [typeBody?]
    have closes : typeBody? (d + 1) ('>' :: (t ++ rest))
        = (typeBody? d (t ++ rest)).map fun (body, behind) => ('>' :: body, behind) := by
      simp [typeBody?]
    rw [List.cons_append, List.append_assoc, List.cons_append, opens, inside_ih, closes, ih,
      Option.map_map, Option.map_map, Option.map_map]
    congr 1
    funext p
    simp

theorem markupStep_data {letters : List Char} (uncut : occursIn [']', ']', '>'] letters = false)
    (rest : List Char) :
    markupStep opened ('!' :: ("[CDATA[".toList ++ letters ++ [']', ']', '>'] ++ rest))
      = ⟨.data letters, opened, rest⟩ := by
  have whole : occursIn [']', ']', '>'] ("[CDATA[".toList ++ letters) = false := by
    simpa [occursIn, cut?, after?] using uncut
  have cut := cut?_doubled (by decide : ']' ≠ '>') whole rest
  have front : afterWord? "[CDATA[".toList ("[CDATA[".toList ++ letters) = some letters := rfl
  rw [List.append_assoc]
  show dataStep opened ("[CDATA[".toList ++ letters ++ ']' :: ']' :: '>' :: rest) = _
  simp only [dataStep, cut, front]

theorem markupStep_comment {s : List Char} (uncut : occursIn ['-', '-', '>'] s = false)
    (rest : List Char) : markupStep opened ('!' :: '-' :: '-' :: (s ++ ['-', '-', '>'] ++ rest))
      = ⟨.aside, opened, rest⟩ := by
  have cut := cut?_doubled (by decide : '-' ≠ '>') uncut rest
  rw [List.append_assoc]
  show commentStep opened ('-' :: '-' :: (s ++ '-' :: '-' :: '>' :: rest)) = _
  simp [commentStep, after?, cut]

theorem markupStep_documentType {s : List Char} (filled : skip s ≠ []) (nested : Nested s)
    (rest : List Char) : markupStep opened ('!' :: ("DOCTYPE".toList ++ s ++ ['>'] ++ rest))
      = ⟨.aside, opened, rest⟩ := by
  have body : typeBody? 0 ("DOCTYPE".toList ++ s ++ '>' :: rest) = some ("DOCTYPE".toList ++ s, rest) := by
    have ends : typeBody? 0 ('>' :: rest) = some ([], rest) := by simp [typeBody?]
    rw [typeBody?_nested (nested.after (by decide)), ends]
    simp
  have front : afterWord? "DOCTYPE".toList ("DOCTYPE".toList ++ s) = some s := rfl
  rw [List.append_assoc]
  show typeStep opened ("DOCTYPE".toList ++ s ++ '>' :: rest) = _
  simp only [typeStep, body, front, if_neg filled]

theorem markupStep_instruction {s : List Char} (filled : s ≠ []) (plain : '>' ∉ s)
    (rest : List Char) : markupStep opened ('?' :: (s ++ ['?', '>'] ++ rest))
      = ⟨.aside, opened, rest⟩ := by
  have inner : ∀ c ∈ s ++ ['?'], (c != '>') = true := by
    intro c hc
    refine bne_iff_ne.2 ?_
    rintro rfl
    simp [plain] at hc
  have body : upTo '>' (s ++ ['?', '>'] ++ rest) = (s ++ ['?'], rest) := by
    have split : s ++ ['?', '>'] ++ rest = (s ++ ['?']) ++ '>' :: rest := by simp
    rw [split, upTo, List.takeWhile_append_of_pos inner, List.dropWhile_append_of_pos inner]
    simp
  have long : 1 ≤ s.length := List.length_pos_iff.2 filled
  show instructionStep opened (s ++ ['?', '>'] ++ rest) = _
  simp only [instructionStep, body, List.getLast?_concat, List.length_append, List.length_singleton]
  rw [if_pos]
  simpa using long

/-- The first bracket in an instruction is not the one that ends it. -/
theorem markupStep_broken {s : List Char} (uncut : occursIn ['?', '>'] s = false) (broken : '>' ∈ s)
    (rest : List Char) : markupStep opened ('?' :: (s ++ rest)) = ⟨.malformed, opened, []⟩ := by
  obtain ⟨u, v, rfl, first⟩ := List.eq_append_cons_of_mem broken
  have body : (upTo '>' (u ++ '>' :: v ++ rest)).1 = u := by
    rw [List.append_assoc, List.cons_append]
    exact takeWhile_ne_append first _
  have last : u.getLast? ≠ some '?' := by
    intro last
    obtain ⟨w, rfl⟩ := List.getLast?_eq_some_iff.1 last
    have inside := occursIn_append ['?', '>'] w v
    have split : w ++ ['?'] ++ '>' :: v = w ++ ['?', '>'] ++ v := by simp
    rw [← split, uncut] at inside
    cases inside
  show instructionStep opened (u ++ '>' :: v ++ rest) = _
  simp only [instructionStep, body]
  simp [last]

end steps

section reading

variable {σ ε : Type} {next : σ → Event → Except ε σ}

/-- Whether events make no difference to who takes them in, whatever is known before. -/
def Alike (next : σ → Event → Except ε σ) (events others : List Event) : Prop :=
  ∀ st, events.foldlM next st = others.foldlM next st

theorem Alike.append {a b c d : List Event} (first : Alike next a b) (second : Alike next c d) :
    Alike next (a ++ c) (b ++ d) := by
  intro st
  rw [List.foldlM_append, List.foldlM_append, first st]
  exact bind_congr second

theorem Alike.behind {c d : List Event} (second : Alike next c d) (a : List Event) :
    Alike next (a ++ c) (a ++ d) := Alike.append (fun _ => rfl) second

theorem Alike.trans {a b c : List Event} (first : Alike next a b) (second : Alike next b c) :
    Alike next a c := fun st => (first st).trans (second st)

theorem Alike.malformed (stops : ∀ st, ∃ e, next st .malformed = .error e) (a b : List Event) :
    Alike next (.malformed :: a) (.malformed :: b) := by
  intro st
  obtain ⟨e, stopped⟩ := stops st
  rw [List.foldlM_cons, List.foldlM_cons, stopped]
  rfl

open Markup

theorem ends_charsAll {pieces : List Markup} (apart : ∀ piece ∈ pieces.head?, piece.isText = false)
    {rest : List Char} (ends : Ends rest) : Ends (charsAll pieces ++ rest) := by
  cases pieces with
  | nil => exact ends
  | cons piece pieces =>
    cases piece with
    | text raw => cases apart _ rfl
    | data | comment | instruction | documentType | element | closed => exact ends_markup _

/-- A document that is written properly is read piece by piece, up to an instruction that the reader does not
take. -/
theorem alike_told (stops : ∀ st, ∃ e, next st .malformed = .error e) {pieces : List Markup}
    (written : WellFormed pieces) (opened : List (List Char)) {rest : List Char} (ends : Ends rest) :
    Alike next (eventsFrom opened (charsAll pieces ++ rest)) (toldAll pieces ++ eventsFrom opened rest) := by
  induction written generalizing opened rest with
  | nil => exact fun _ => rfl
  | @text raw pieces plain apart _ ih =>
    rw [charsAll, chars, List.append_assoc, eventsFrom_raw opened plain (ends_charsAll apart ends), toldAll,
      List.append_assoc]
    exact (ih opened ends).behind _
  | @data letters pieces uncut _ ih =>
    have split : charsAll (data letters :: pieces) ++ rest
        = '<' :: '!' :: ("[CDATA[".toList ++ letters ++ [']', ']', '>'] ++ (charsAll pieces ++ rest)) := by
      simp [charsAll, chars]
    rw [split, eventsFrom_markup (by simp), markupStep_data uncut]
    exact (ih opened ends).behind [_]
  | @comment s pieces uncut _ ih =>
    have split : charsAll (comment s :: pieces) ++ rest
        = '<' :: '!' :: '-' :: '-' :: (s ++ ['-', '-', '>'] ++ (charsAll pieces ++ rest)) := by
      simp [charsAll, chars]
    rw [split, eventsFrom_markup (by simp), markupStep_comment uncut]
    exact (ih opened ends).behind [_]
  | @instruction s pieces filled uncut _ ih =>
    have split : charsAll (instruction s :: pieces) ++ rest
        = '<' :: '?' :: (s ++ ['?', '>'] ++ (charsAll pieces ++ rest)) := by
      simp [charsAll, chars]
    rw [split, eventsFrom_markup (by simp), toldAll, told]
    by_cases broken : '>' ∈ s
    · rw [if_pos broken, List.append_assoc, markupStep_broken uncut broken]
      exact Alike.malformed stops _ _
    · rw [if_neg broken, markupStep_instruction filled broken]
      exact (ih opened ends).behind [_]
  | @documentType s pieces filled nested _ ih =>
    have split : charsAll (documentType s :: pieces) ++ rest
        = '<' :: '!' :: ("DOCTYPE".toList ++ s ++ ['>'] ++ (charsAll pieces ++ rest)) := by
      simp [charsAll, chars]
    rw [split, eventsFrom_markup (by simp), markupStep_documentType filled nested]
    exact (ih opened ends).behind [_]
  | @element name within gap inner pieces word spelled _ blank _ inside_ih ih =>
    have split : charsAll (element name within inner gap :: pieces) ++ rest
        = '<' :: (name.toList ++ within ++ '>' :: (charsAll inner
          ++ '<' :: '/' :: (name.toList ++ gap ++ '>' :: (charsAll pieces ++ rest)))) := by
      simp [charsAll, chars]
    have inside := inside_ih (name.toList :: opened)
      (ends_markup ('/' :: (name.toList ++ gap ++ '>' :: (charsAll pieces ++ rest))))
    rw [eventsFrom_markup (by simp), markupStep_finish word blank] at inside
    have whole := inside.trans (((ih opened ends).behind [.finish name.toList]).behind (toldAll inner))
    rw [split, eventsFrom_markup (by simp), markupStep_start word spelled]
    simpa [toldAll, told] using whole.behind [.start ⟨name.toList, within⟩]
  | @closed name within pieces word spelled _ ih =>
    have split : charsAll (closed name within :: pieces) ++ rest
        = '<' :: (name.toList ++ within ++ '/' :: '>' :: (charsAll pieces ++ rest)) := by
      simp [charsAll, chars]
    rw [split, eventsFrom_markup (by simp), markupStep_closed word spelled]
    exact (ih opened ends).behind [_]

end reading

/-- Pieces that make up a document: outside elements there is no text but white space. -/
structure IsDocument (pieces : List Markup) : Prop where
  written : Markup.WellFormed pieces
  blank : ∀ raw, Markup.text raw ∈ pieces → IsGap raw

/-- A document. A byte order mark may stand before it. -/
def document (marked : Bool) (pieces : List Markup) : String :=
  String.ofList ((if marked then [Char.ofNat 0xFEFF] else []) ++ Markup.charsAll pieces)

theorem IsDocument.unmarked {pieces : List Markup} (h : IsDocument pieces) :
    ∀ c ∈ (Markup.charsAll pieces).head?, c ≠ Char.ofNat 0xFEFF := by
  have markup {others : List Markup} (apart : ∀ piece ∈ others.head?, piece.isText = false) :
      ∀ c ∈ (Markup.charsAll others).head?, c ≠ Char.ofNat 0xFEFF := by
    intro c hc
    have first := ends_charsAll apart ends_nil
    rw [List.append_nil] at first
    rw [first c hc]
    decide
  cases h.written with
  | @text raw others _ apart _ =>
    cases raw with
    | nil => exact (markup apart :)
    | cons d raw =>
      intro c hc
      obtain rfl : d = c := by simpa [Markup.charsAll, Markup.chars] using hc
      have white := h.blank _ List.mem_cons_self d List.mem_cons_self
      rintro rfl
      exact absurd white (by decide)
  | nil | data | comment | instruction | documentType | element | closed =>
    exact markup (by simp [Markup.isText])

theorem events_document (marked : Bool) {pieces : List Markup} (h : IsDocument pieces) :
    events (document marked pieces).toList = eventsFrom [] (Markup.charsAll pieces) := by
  rw [document, String.toList_ofList]
  cases marked with
  | true => simp [events]
  | false =>
    have first := h.unmarked
    cases chars : Markup.charsAll pieces with
    | nil => simp [events, eventsFrom, skip]
    | cons c s => simp [events, first c (by simp [chars])]

end MapLayer.Xml
