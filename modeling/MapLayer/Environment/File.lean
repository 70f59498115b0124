import MapLayer.Environment.Expand
import MapLayer.Text.Letter

/-!
Files that set variables, one on each line. A value may be quoted, and then hold line breaks; outside
single quotes it may refer to variables that are already set. A variable that is set keeps its value.
-/

namespace MapLayer.Environment

open MapLayer.Text

/-- Where in a line a character stands, as far as the end of the line depends on it. -/
inductive Quoting
  | outside
  | afterBlank
  | escaped
  | double
  | doubleEscaped
  | single
  | singleEscaped
deriving DecidableEq

/-- The state after a character. A comment has none. -/
def Quoting.next (c : Char) : Quoting → Option Quoting
  | afterBlank =>
    if c = '#' then none
    else if c = '\\' then some escaped
    else if c = '"' then some double
    else if c = '\'' then some single
    else some outside
  | outside =>
    if isBlank c && c != '\n' && c != '\r' then some afterBlank
    else if c = '\\' then some escaped
    else if c = '"' then some double
    else if c = '\'' then some single
    else some outside
  | escaped => some outside
  | double => some (if c = '\\' then doubleEscaped else if c = '"' then outside else double)
  | doubleEscaped => some double
  | single => some (if c = '\\' then singleEscaped else if c = '\'' then outside else single)
  | singleEscaped => some single

def nextLine (s : List Char) : List Char := (s.dropWhile (· != '\n')).tail

/-- A line without its comment, and the text after it. A quote has to be closed. -/
def line? (q : Quoting) : List Char → Option (List Char × List Char)
  | [] => if q = .outside then some ([], []) else none
  | c :: s => match q.next c with
    | none => some ([], nextLine s)
    | some q =>
      if c = '\n' ∧ q = .outside then some ([], s)
      else (line? q s).map fun (line, rest) => (c :: line, rest)

inductive Place
  | text
  /-- After a blank, behind which only a comment may stand. -/
  | ended
  | escaped
  | single
  /-- Inside a reference, of which some has been read. -/
  | name (taken : List Char)
  | braced (taken : List Char)

/-- The value of a variable, empty if it is not set. -/
def valueOf (env : Environment) (name : List Char) : List Char :=
  ((env.get? (String.ofList name)).map String.toList).getD []

/-- A value as it is meant, given how it is written. Inside double quotes `double` holds. -/
def value? (env : Environment) (double : Bool) (place : Place) : List Char → Option (List Char)
  | [] => match place with
    | .single | .braced _ => none
    | .name taken => if double then none else some (env.valueOf taken)
    | .text | .ended | .escaped => if double then none else some []
  | c :: s => match place with
    | .ended =>
      if c = ' ' ∨ c = '\t' then value? env double .ended s
      else if c = '#' then some []
      else none
    | .escaped =>
      if ['\\', '\'', '"', '$', ' '].contains c then (value? env double .text s).map (c :: ·)
      else if c = 'n' then (value? env double .text s).map ('\n' :: ·)
      else none
    | .single =>
      if c = '\'' then value? env double .text s
      else (value? env double .single s).map (c :: ·)
    | .name taken =>
      if isAlphanumeric c then value? env double (.name (taken ++ [c])) s
      else if c = '\x7b' ∧ taken = [] then value? env double (.braced []) s
      else if c = '$' then (value? env double (.name []) s).map (env.valueOf taken ++ ·)
      else (value? env double .text s).map (env.valueOf taken ++ c :: ·)
    | .braced taken =>
      if c = '\x7d' then (value? env double .text s).map (env.valueOf taken ++ ·)
      else value? env double (.braced (taken ++ [c])) s
    | .text =>
      if c = '$' then value? env double (.name []) s
      else if c = '\\' then value? env double .escaped s
      else if c = '"' then value? env (!double) .text s
      else if !double && c == '\'' then value? env double .single s
      else if !double && (c == ' ' || c == '\t') then value? env double .ended s
      else (value? env double .text s).map (c :: ·)

def isNameStart (c : Char) : Bool := c.isAlpha || c == '_'

def isNamePart (c : Char) : Bool := c.isAlphanum || c == '_' || c == '.'

/-- The name at the front of a line, and the text after the white space behind it. -/
def lineName? (s : List Char) : Option (List Char × List Char) :=
  if s.head?.any isNameStart then
    some (s.takeWhile isNamePart, trimLeft isBlank (s.dropWhile isNamePart))
  else none

/-- A name and the text after its equals sign. The word `export` may stand before the name. -/
def assignment? (s : List Char) : Option (List Char × List Char) := do
  let (name, r) ← lineName? s
  match r with
  | '=' :: value => return (name, trimLeft isBlank value)
  | r =>
    if name = "export".toList then
      let (name, r) ← lineName? r
      match r with
      | '=' :: value => return (name, trimLeft isBlank value)
      | _ => none
    else none

inductive LineFault
  | unreadable
  /-- The value holds a zero character, which no setting can hold. -/
  | unsettable
deriving DecidableEq

/-- A variable keeps its first value. -/
def setNew (env : Environment) (name value : List Char) : Except LineFault Environment :=
  let name := String.ofList name
  if (env.get? name).isSome then .ok env
  else if value.contains (Char.ofNat 0) then .error .unsettable
  else .ok (env.add name (String.ofList value))

def lineSetting? (env : Environment) (line : List Char) :
    Except LineFault (Option (List Char × List Char)) :=
  let s := trim line
  if s = [] || s.head? == some '#' then .ok none
  else do
    let some (name, written) := assignment? s | throw .unreadable
    if written = [] || written.head? == some '#' then return some (name, [])
    else
      let some value := env.value? false .text written | throw .unreadable
      return some (name, value)

def readLine (env : Environment) (line : List Char) : Except LineFault Environment := do
  match ← env.lineSetting? line with
  | some (name, value) => env.setNew name value
  | none => return env

theorem length_nextLine (s : List Char) : (nextLine s).length ≤ s.length := by
  have := (List.dropWhile_sublist (· != '\n') (l := s)).length_le
  simp only [nextLine, List.length_tail]
  omega

theorem length_line? {q : Quoting} {s line rest : List Char} (h : line? q s = some (line, rest)) :
    rest.length ≤ s.length - 1 := by
  induction s generalizing q line with
  | nil =>
    unfold line? at h
    split at h
    · obtain ⟨-, rfl⟩ := Prod.mk.inj (Option.some.inj h)
      simp
    · contradiction
  | cons c s ih =>
    unfold line? at h
    split at h
    · obtain ⟨-, rfl⟩ := Prod.mk.inj (Option.some.inj h)
      exact length_nextLine s
    · split at h
      · obtain ⟨-, rfl⟩ := Prod.mk.inj (Option.some.inj h)
        exact Nat.le_refl _
      · obtain ⟨⟨_, _⟩, e, eq⟩ := Option.map_eq_some_iff.1 h
        obtain ⟨-, rfl⟩ := Prod.mk.inj eq
        exact Nat.le_trans (ih e) (Nat.sub_le _ _)

def startsComment (s : List Char) : Bool :=
  (trimLeft isBlank (s.takeWhile (· != '\n'))).head? == some '#'

/-- The environment with what the lines of a text set, up to the first line that cannot be read.
There is none if a line cannot be set. -/
def readLines (env : Environment) (s : List Char) : Option Environment :=
  match s with
  | [] => some env
  | c :: r =>
    if startsComment (c :: r) then readLines env (nextLine r)
    else match _h : line? .outside (c :: r) with
      | none => some env
      | some (line, rest) => match env.readLine line with
        | .error .unreadable => some env
        | .error .unsettable => none
        | .ok env => readLines env rest
termination_by s.length
decreasing_by
  · have := length_nextLine r
    simp only [List.length_cons]
    omega
  · have := length_line? _h
    simp only [List.length_cons] at this ⊢
    omega

/-- The environment with what a file sets. A byte order mark may stand before it. -/
def withFile (env : Environment) (text : String) : Option Environment :=
  match text.toList with
  | c :: r => env.readLines (if c = Char.ofNat 0xFEFF then r else c :: r)
  | [] => some env

end MapLayer.Environment
