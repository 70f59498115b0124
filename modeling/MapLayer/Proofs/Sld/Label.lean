import MapLayer.Proofs.DateMath.Checked
import MapLayer.Proofs.Text.Cut
import MapLayer.Sld.Document

/-!
Label templates. Main statement: the parts of a label are found from the left, nothing of it is lost, and a
search that cuts at numbers of bytes finds them too, without a cut inside of a character.
-/

namespace MapLayer.LabelPiece

open MapLayer.Text
open DateMath (cutAt cutAt_append)

def opening : List Char := ['{', '{']

def closing : List Char := ['}', '}']

/-- A part as it is written in a label. -/
def source : LabelPiece → List Char
  | text s => s
  | column name => opening ++ name ++ closing

/-- The parts of a label: a reference from the first opening to the first closing behind it, the text before
it, and what is found behind it. A text without a reference is one part, or none if it is empty. -/
inductive Scanned : List Char → List LabelPiece → Prop
  | rest {s : List Char} (none : ∀ before name after, s ≠ before ++ opening ++ name ++ closing ++ after) :
    Scanned s (textOf s)
  | reference {s before after name rest : List Char} {ps : List LabelPiece}
    (opens : FirstCut opening s before after) (closes : FirstCut closing after name rest)
    (later : Scanned rest ps) : Scanned s (textOf before ++ column name :: ps)

def bytes (s : List Char) : Nat := (s.map Char.utf8Size).sum

/-- Where a mark starts in a text, in bytes. -/
def find? (mark s : List Char) : Option Nat := (cut? mark s).map fun (before, _) => bytes before

/-- A text from a number of bytes on, if that lies between two characters. -/
def from? (first : Nat) (s : List Char) : Option (List Char) := (cutAt first s).toOption.map Prod.snd

/-- A text between two numbers of bytes, in their order, if they lie between characters. -/
def slice? (first last : Nat) (s : List Char) : Option (List Char) :=
  if first ≤ last then do
    let back ← from? first s
    (cutAt (last - first) back).toOption.map Prod.fst
  else none

/-- The part before a number of bytes, if the text does not start there. -/
def front? (last : Nat) (s : List Char) : Option (List LabelPiece) :=
  if 0 < last then (slice? 0 last s).map fun t => [text t] else some []

/-- The first reference of a text with what is before it, and the text behind it, if there is one. A cut that
is out of place breaks the search off. -/
def turn (s : List Char) : Option (Option (List LabelPiece × List Char)) :=
  match find? opening s with
  | none => some none
  | some start => do
    match find? closing (← from? start s) with
    | none => some none
    | some length =>
      let before ← front? start s
      let name ← slice? (start + 2) (start + length) s
      let rest ← from? (start + length + 2) s
      return some (before ++ [column name], rest)

/-- The parts that are found in some turns, if they are enough. -/
def scan : Nat → List Char → Option (List LabelPiece)
  | 0, _ => none
  | turns + 1, s => do
    match ← turn s with
    | none => some (textOf s)
    | some (ps, rest) => (scan turns rest).map (ps ++ ·)

theorem source_textOf (s : List Char) : (textOf s).flatMap source = s := by
  unfold textOf
  split
  · rename_i empty
    rw [empty]
    rfl
  · exact List.append_nil s

/-- Nothing of a label is lost. -/
theorem Scanned.source_eq {s : List Char} {ps : List LabelPiece} (h : Scanned s ps) :
    ps.flatMap source = s := by
  induction h with
  | rest none => exact source_textOf _
  | @reference s before after name rest ps opens closes later ih =>
    rw [List.flatMap_append, List.flatMap_cons, source_textOf, ih, source, opens.text, closes.text]
    simp

/-- Behind the first opening stands every closing that follows an opening. -/
theorem closing_behind {s before after b name r : List Char} (opens : FirstCut opening s before after)
    (split : s = b ++ opening ++ name ++ closing ++ r) : ∃ t, after = t ++ closing ++ r := by
  have early := opens.first b (name ++ closing ++ r) (by simp [split])
  have same : (before ++ opening) ++ after = (b ++ opening ++ name) ++ (closing ++ r) := by
    rw [← opens.text, split]
    simp
  rcases List.append_eq_append_iff.1 same with ⟨t, -, behind⟩ | ⟨t, longer, behind⟩
  · exact ⟨t, by rw [behind]; simp⟩
  · have length := congrArg List.length longer
    simp only [List.length_append] at length
    have none : t = [] := List.length_eq_zero_iff.1 (by omega)
    subst none
    exact ⟨[], by simpa using behind.symm⟩

theorem pieces_of_none {s : List Char} (absent : cut? opening s = none) : pieces s = textOf s := by
  rw [pieces]
  split
  · rfl
  · rename_i found
    cases absent.symm.trans found

theorem pieces_of_open {s before after : List Char} (opens : cut? opening s = some (before, after))
    (absent : cut? closing after = none) : pieces s = textOf s := by
  rw [pieces]
  split
  · rfl
  · rename_i found
    cases opens.symm.trans found
    split
    · rfl
    · rename_i found
      cases absent.symm.trans found

theorem pieces_of_cut? {s before after name rest : List Char}
    (opens : cut? opening s = some (before, after)) (closes : cut? closing after = some (name, rest)) :
    pieces s = textOf before ++ column name :: pieces rest := by
  rw [pieces]
  split
  · rename_i absent
    cases opens.symm.trans absent
  · rename_i found
    cases opens.symm.trans found
    split
    · rename_i absent
      cases closes.symm.trans absent
    · rename_i found
      cases closes.symm.trans found
      rfl

theorem scanned_pieces (s : List Char) : Scanned s (pieces s) := by
  fun_induction pieces s with
  | case1 s absent =>
    refine .rest fun before name after split => ?_
    exact cut?_eq_none_iff.1 absent before (name ++ closing ++ after) (by simp [split, opening])
  | case2 s before after opens absent =>
    refine .rest fun b name r split => ?_
    obtain ⟨t, behind⟩ := closing_behind (cut?_eq_some_iff.1 opens) split
    exact cut?_eq_none_iff.1 absent t r behind
  | case3 s before after opens name rest closes ih =>
    exact .reference (cut?_eq_some_iff.1 opens) (cut?_eq_some_iff.1 closes) ih

theorem scanned_iff {s : List Char} {ps : List LabelPiece} : Scanned s ps ↔ ps = pieces s := by
  constructor
  · intro h
    induction h with
    | @rest s none =>
      cases opens : cut? opening s with
      | none => exact (pieces_of_none opens).symm
      | some parts =>
        cases closes : cut? closing parts.2 with
        | none => exact (pieces_of_open opens closes).symm
        | some parts' =>
          have split := append_of_cut? opens
          rw [append_of_cut? closes] at split
          exact absurd (by simpa using split) (none parts.1 parts'.1 parts'.2)
    | reference opens closes later ih =>
      rw [pieces_of_cut? (cut?_eq_some_iff.2 opens) (cut?_eq_some_iff.2 closes), ih]
  · rintro rfl
    exact scanned_pieces s

theorem bytes_append (s t : List Char) : bytes (s ++ t) = bytes s + bytes t := by
  rw [bytes, List.map_append, List.sum_append, bytes, bytes]

theorem bytes_pos_iff {s : List Char} : 0 < bytes s ↔ s ≠ [] := by
  cases s with
  | nil => simp [bytes]
  | cons c s =>
    have pos := c.utf8Size_pos
    simp [bytes, pos]

theorem from?_append (front back : List Char) : from? (bytes front) (front ++ back) = some back := by
  rw [from?, bytes, cutAt_append]
  rfl

theorem slice?_append (front middle back : List Char) :
    slice? (bytes front) (bytes front + bytes middle) (front ++ (middle ++ back)) = some middle := by
  rw [slice?, if_pos (Nat.le_add_right _ _), from?_append, Nat.add_sub_cancel_left]
  change Option.map Prod.fst (cutAt (bytes middle) (middle ++ back)).toOption = some middle
  rw [bytes, cutAt_append]
  rfl

theorem find?_closing (after : List Char) :
    find? closing (opening ++ after) = (find? closing after).map (2 + ·) := by
  have found : cut? closing (opening ++ after)
      = (cut? closing after).map fun (name, rest) => (opening ++ name, rest) := by
    simp only [opening, closing, List.cons_append, List.nil_append, cut?, after?]
    rw [if_neg (by decide), if_neg (by decide)]
    simp [Option.map_map, Function.comp_def]
  rw [find?, found, find?, Option.map_map, Option.map_map]
  refine congrArg (Option.map · _) (funext fun parts => ?_)
  exact bytes_append opening parts.1

theorem front?_append (before back : List Char) :
    front? (bytes before) (before ++ back) = some (textOf before) := by
  have cut := slice?_append [] before back
  simp only [bytes, List.map_nil, List.sum_nil, Nat.zero_add, List.nil_append] at cut
  by_cases empty : before = []
  · rw [front?, textOf, if_pos empty, if_neg (by simp [bytes_pos_iff, empty])]
  · rw [front?, textOf, if_neg empty, if_pos (bytes_pos_iff.2 empty), bytes, cut]
    rfl

theorem slice?_name (before name back : List Char) :
    slice? (bytes before + 2) (bytes before + (2 + bytes name)) (before ++ (opening ++ (name ++ back)))
      = some name := by
  have cut := slice?_append (before ++ opening) name back
  rwa [bytes_append, Nat.add_assoc, List.append_assoc] at cut

theorem from?_rest (before name rest : List Char) :
    from? (bytes before + (2 + bytes name) + 2) (before ++ (opening ++ (name ++ (closing ++ rest))))
      = some rest := by
  have cut := from?_append (before ++ (opening ++ name) ++ closing) rest
  rw [bytes_append, bytes_append, bytes_append, List.append_assoc, List.append_assoc, List.append_assoc] at cut
  exact cut

/-- Every cut of a turn lies between two characters. -/
theorem turn_eq (s : List Char) : turn s = some (match cut? opening s with
    | none => none
    | some (before, after) => match cut? closing after with
      | none => none
      | some (name, rest) => some (textOf before ++ [column name], rest)) := by
  rw [turn, find?]
  cases opens : cut? opening s with
  | none => rfl
  | some parts =>
    obtain ⟨before, after⟩ := parts
    have text : s = before ++ (opening ++ after) := by
      rw [append_of_cut? opens, List.append_assoc]
    simp only [Option.map_some, text, from?_append, Option.bind_eq_bind, Option.bind_some,
      find?_closing]
    rw [find?]
    cases closes : cut? closing after with
    | none => rfl
    | some parts =>
      obtain ⟨name, rest⟩ := parts
      have behind : after = name ++ (closing ++ rest) := by
        rw [append_of_cut? closes, List.append_assoc]
      simp only [Option.map_some, behind, front?_append, slice?_name, from?_rest, Option.bind_some,
        Option.pure_def]

theorem scan_eq {turns : Nat} {s : List Char} (enough : s.length < turns) :
    scan turns s = some (pieces s) := by
  induction turns generalizing s with
  | zero => omega
  | succ turns ih =>
    rw [scan, turn_eq]
    cases opens : cut? opening s with
    | none => rw [pieces_of_none opens]; rfl
    | some parts =>
      obtain ⟨before, after⟩ := parts
      cases closes : cut? closing after with
      | none => rw [pieces_of_open opens closes]; simp [closes]
      | some parts =>
        obtain ⟨name, rest⟩ := parts
        have length := length_of_cut? opens
        have length' := length_of_cut? closes
        have shorter : rest.length < turns := by
          simp only [opening, closing, List.length_cons, List.length_nil] at length length'
          omega
        rw [pieces_of_cut? opens closes]
        simp [closes, ih shorter]

/-- The element of a template holds the parts found from the left, which are the whole of it: text as it is, and
a reference as the name of a property, without white space around it. The search by bytes finds the parts in
fewer turns than the template has characters and breaks off nowhere. -/
theorem label_template {s : String} (template : isTemplate s.toList = true) :
    ∃ ps, Sld.label s = .element "Label" [] (ps.map fun
        | text t => .text (String.ofList t)
        | column name => .element "ogc:PropertyName" [] [.text (String.ofList (trim name))])
      ∧ (∀ qs, Scanned s.toList qs ↔ qs = ps)
      ∧ ps.flatMap source = s.toList
      ∧ ∀ turns, s.toList.length < turns → scan turns s.toList = some ps := by
  refine ⟨pieces s.toList, ?_, fun qs => scanned_iff, (scanned_pieces _).source_eq, fun turns => scan_eq⟩
  rw [Sld.label, if_pos template]
  refine congrArg (XmlNode.element "Label" []) (List.map_congr_left fun p _ => ?_)
  cases p <;> rfl

theorem label_template_braces :
    isTemplate "é\x7b\x7b\x7b a \x7d\x7d\x7d\x7d\x7b\x7bb".toList = true
      ∧ Sld.label "é\x7b\x7b\x7b a \x7d\x7d\x7d\x7d\x7b\x7bb" = .element "Label" [] [.text "é",
        .element "ogc:PropertyName" [] [.text "\x7b a"], .text "\x7d\x7d\x7b\x7bb"] := by
  refine ⟨by decide, ?_⟩
  obtain ⟨ps, element, -, -, found⟩ :=
    @label_template "é\x7b\x7b\x7b a \x7d\x7d\x7d\x7d\x7b\x7bb" (by decide)
  have parts : some ps = some [text ['é'], column ['{', ' ', 'a', ' '], text ['}', '}', '{', '{', 'b']] := by
    rw [← found 20 (by decide)]
    decide
  rw [element, Option.some.inj parts]
  rfl

end MapLayer.LabelPiece
