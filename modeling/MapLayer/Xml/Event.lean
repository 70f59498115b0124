import MapLayer.Text.Blank
import MapLayer.Text.Split
import MapLayer.Xml.Entity

/-!
An XML document as the events of reading it: tags and the text between them. Reading stops at the
first thing that is not well formed; what a document leaves open at its end is no fault.
-/

namespace MapLayer.Xml

open MapLayer.Text

structure Tag where
  name : List Char
  rest : List Char
deriving DecidableEq

inductive Event
  | start (tag : Tag)
  /-- A tag that closes itself. -/
  | empty (tag : Tag)
  | finish (name : List Char)
  /-- Text as it is written, without the white space around it. -/
  | text (raw : List Char)
  | data (s : List Char)
  /-- A comment, an instruction or a document type. -/
  | aside
  | malformed
deriving DecidableEq

def localName (name : List Char) : List Char :=
  match cut? [':'] name with
  | some (_, rest) => rest
  | none => name

def skip (s : List Char) : List Char := s.dropWhile isSpacing

/-- The text before the first occurrence of a character, and the text after it. -/
def upTo (mark : Char) (s : List Char) : List Char × List Char :=
  (s.takeWhile (· != mark), (s.dropWhile (· != mark)).tail)

/-- The text before the end of a tag, and the text after it. A quoted text does not end a tag. -/
def tagBody (quote : Option Char) : List Char → List Char × List Char
  | [] => ([], [])
  | c :: s =>
    match quote with
    | none =>
      if c = '>' then ([], s)
      else
        let quote := if c = '"' ∨ c = '\'' then some c else none
        let (body, rest) := tagBody quote s
        (c :: body, rest)
    | some q =>
      let (body, rest) := tagBody (if c = q then none else some q) s
      (c :: body, rest)

/-- The text before the end of a document type, in which tags may be nested. -/
def typeBody? (depth : Nat) : List Char → Option (List Char × List Char)
  | [] => none
  | c :: s =>
    if c = '>' then
      match depth with
      | 0 => some ([], s)
      | d + 1 => (typeBody? d s).map fun (body, rest) => (c :: body, rest)
    else
      (typeBody? (if c = '<' then depth + 1 else depth) s).map fun (body, rest) => (c :: body, rest)

def afterWord? : (word s : List Char) → Option (List Char)
  | [], s => some s
  | _ :: _, [] => none
  | w :: word, c :: s => if c.toUpper = w then afterWord? word s else none

/-- An event, the names of the elements that are open after it, and the text after it. -/
structure Step where
  event : Event
  opened : List (List Char)
  rest : List Char

def commentStep (opened : List (List Char)) (s : List Char) : Step :=
  match (after? ['-', '-'] s).bind (cut? ['-', '-', '>']) with
  | some (_, rest) => ⟨.aside, opened, rest⟩
  | none => ⟨.malformed, opened, []⟩

def dataStep (opened : List (List Char)) (s : List Char) : Step :=
  match cut? [']', ']', '>'] s with
  | some (body, rest) => match afterWord? "[CDATA[".toList body with
    | some content => ⟨.data content, opened, rest⟩
    | none => ⟨.malformed, opened, []⟩
  | none => ⟨.malformed, opened, []⟩

def typeStep (opened : List (List Char)) (s : List Char) : Step :=
  match typeBody? 0 s with
  | some (body, rest) => match afterWord? "DOCTYPE".toList body with
    | some content => if skip content = [] then ⟨.malformed, opened, []⟩ else ⟨.aside, opened, rest⟩
    | none => ⟨.malformed, opened, []⟩
  | none => ⟨.malformed, opened, []⟩

/-- The end of an element, after its slash. It has to be the element opened last. Form feeds count as
white space behind its name. -/
def finishStep (opened : List (List Char)) (s : List Char) : Step :=
  let (body, rest) := upTo '>' s
  let written := trimRight (fun c => isSpacing c || c == '\x0c') body
  match opened with
  | expected :: others =>
    let name := if written = [] then body else written
    if name = expected then ⟨.finish name, others, rest⟩ else ⟨.malformed, opened, []⟩
  | [] => ⟨.malformed, opened, []⟩

def instructionStep (opened : List (List Char)) (s : List Char) : Step :=
  let (body, rest) := upTo '>' s
  if 2 ≤ body.length && body.getLast? = some '?' then ⟨.aside, opened, rest⟩
  else ⟨.malformed, opened, []⟩

def tagOf (body : List Char) : Tag :=
  ⟨body.takeWhile (!isSpacing ·), body.dropWhile (!isSpacing ·)⟩

def startStep (opened : List (List Char)) (s : List Char) : Step :=
  let (body, rest) := tagBody none s
  if body.getLast? = some '/' then ⟨.empty (tagOf body.dropLast), opened, rest⟩
  else ⟨.start (tagOf body), (tagOf body).name :: opened, rest⟩

def markupStep (opened : List (List Char)) : List Char → Step
  | '!' :: s => match s with
    | '-' :: _ => commentStep opened s
    | '[' :: _ => dataStep opened s
    | 'D' :: _ | 'd' :: _ => typeStep opened s
    | _ => ⟨.malformed, opened, []⟩
  | '/' :: s => finishStep opened s
  | '?' :: s => instructionStep opened s
  | s => startStep opened s

theorem length_upTo (mark : Char) (s : List Char) : (upTo mark s).2.length ≤ s.length := by
  have := (List.dropWhile_sublist (· != mark) (l := s)).length_le
  simp only [upTo, List.length_tail]
  omega

theorem length_tagBody (quote : Option Char) (s : List Char) :
    (tagBody quote s).2.length ≤ s.length := by
  induction s generalizing quote with
  | nil => simp [tagBody]
  | cons c s ih =>
    unfold tagBody
    cases quote with
    | none =>
      dsimp only
      split
      · simp
      · exact Nat.le_succ_of_le (ih _)
    | some q => exact Nat.le_succ_of_le (ih _)

theorem length_typeBody? {depth : Nat} {s body rest : List Char}
    (h : typeBody? depth s = some (body, rest)) : rest.length ≤ s.length := by
  induction s generalizing depth body with
  | nil => simp [typeBody?] at h
  | cons c s ih =>
    unfold typeBody? at h
    split at h
    · split at h
      · obtain ⟨-, rfl⟩ := Prod.mk.inj (Option.some.inj h)
        exact Nat.le_succ _
      · obtain ⟨⟨_, _⟩, e, eq⟩ := Option.map_eq_some_iff.1 h
        obtain ⟨-, rfl⟩ := Prod.mk.inj eq
        exact Nat.le_succ_of_le (ih e)
    · obtain ⟨⟨_, _⟩, e, eq⟩ := Option.map_eq_some_iff.1 h
      obtain ⟨-, rfl⟩ := Prod.mk.inj eq
      exact Nat.le_succ_of_le (ih e)

theorem length_after? {front s r : List Char} (h : after? front s = some r) :
    r.length ≤ s.length := by
  simp [after?_eq_some_iff.1 h]

theorem length_commentStep (opened : List (List Char)) (s : List Char) :
    (commentStep opened s).rest.length ≤ s.length := by
  unfold commentStep
  split
  · rename_i h
    obtain ⟨r, hr, h⟩ := Option.bind_eq_some_iff.1 h
    have := length_after? hr
    have := length_of_cut? h
    dsimp only
    omega
  · simp

theorem length_dataStep (opened : List (List Char)) (s : List Char) :
    (dataStep opened s).rest.length ≤ s.length := by
  unfold dataStep
  split
  · rename_i h
    have := length_of_cut? h
    split
    · dsimp only
      omega
    · simp
  · simp

theorem length_typeStep (opened : List (List Char)) (s : List Char) :
    (typeStep opened s).rest.length ≤ s.length := by
  unfold typeStep
  split
  · rename_i h
    have := length_typeBody? h
    split
    · split
      · simp
      · exact this
    · simp
  · simp

theorem length_finishStep (opened : List (List Char)) (s : List Char) :
    (finishStep opened s).rest.length ≤ s.length := by
  have := length_upTo '>' s
  unfold finishStep
  cases opened with
  | nil => simp
  | cons expected others =>
    dsimp only
    split <;> split <;> simp [this]

theorem length_instructionStep (opened : List (List Char)) (s : List Char) :
    (instructionStep opened s).rest.length ≤ s.length := by
  have := length_upTo '>' s
  unfold instructionStep
  dsimp only
  split
  · exact this
  · simp

theorem length_startStep (opened : List (List Char)) (s : List Char) :
    (startStep opened s).rest.length ≤ s.length := by
  have := length_tagBody none s
  unfold startStep
  dsimp only
  split <;> exact this

theorem length_markupStep (opened : List (List Char)) (s : List Char) :
    (markupStep opened s).rest.length ≤ s.length := by
  unfold markupStep
  split
  · split
    · exact Nat.le_succ_of_le (length_commentStep opened _)
    · exact Nat.le_succ_of_le (length_dataStep opened _)
    · exact Nat.le_succ_of_le (length_typeStep opened _)
    · exact Nat.le_succ_of_le (length_typeStep opened _)
    · simp
  · exact Nat.le_succ_of_le (length_finishStep opened _)
  · exact Nat.le_succ_of_le (length_instructionStep opened _)
  · exact length_startStep opened _

/-- The events of a text in which some elements are open. -/
def eventsFrom (opened : List (List Char)) (s : List Char) : List Event :=
  match _h : skip s with
  | [] => []
  | c :: r =>
    if c = '<' then
      if r = [] then []
      else
        let step := markupStep opened r
        step.event :: eventsFrom step.opened step.rest
    else
      let raw := c :: r.takeWhile (· != '<')
      .text (trimRight isSpacing raw) :: eventsFrom opened (r.dropWhile (· != '<'))
termination_by s.length
decreasing_by
  · have a := (List.dropWhile_sublist isSpacing (l := s)).length_le
    have b := length_markupStep opened r
    unfold skip at _h
    rw [_h, List.length_cons] at a
    omega
  · have a := (List.dropWhile_sublist isSpacing (l := s)).length_le
    have b := (List.dropWhile_sublist (· != '<') (l := r)).length_le
    unfold skip at _h
    rw [_h, List.length_cons] at a
    omega

/-- The events of a document. A byte order mark may stand before it. -/
def events (s : List Char) : List Event :=
  match s with
  | c :: r => if c = Char.ofNat 0xFEFF then eventsFrom [] r else eventsFrom [] s
  | [] => []

end MapLayer.Xml
