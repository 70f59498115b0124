import MapLayer.Text.Reader

/-!
The scalars of YAML documents: plain, quoted, and block scalars. Line breaks are single characters
here, as `lines` of a document leaves them.
-/

namespace MapLayer.Yaml

open MapLayer.Text

/-- A line feed, and the two separators that stay as they are. -/
def isBreak (c : Char) : Bool :=
  c == '\n' || c == Char.ofNat 0x2028 || c == Char.ofNat 0x2029

def isSpace (c : Char) : Bool := c == ' ' || c == '\t' || isBreak c

def atEnd : List Char → Bool
  | [] => true
  | c :: _ => isSpace c

def startsMark : List Char → Bool
  | a :: b :: c :: s => ((a == '-' && b == '-' && c == '-') || (a == '.' && b == '.' && c == '.'))
      && atEnd s
  | _ => false

def isFlowMark (c : Char) : Bool := [',', '[', ']', '{', '}'].contains c

/-- How far in the text after some white space stands, if a line ends in it. -/
def columnAfter (gap : List Char) : Option Nat :=
  if gap.any isBreak then some (gap.reverse.takeWhile (!isBreak ·)).length else none

/-- What white space inside a scalar stands for: one line break for a space, more for all but the
first, and blanks inside a line for themselves. -/
def gapText (gap : List Char) : List Char :=
  match gap.filter isBreak with
  | [] => gap
  | ['\n'] => [' ']
  | '\n' :: more => more
  | more => more

/-- Whether a tab stands where a later line has to be indented by spaces. -/
def tabWithin (indent : Nat) (column : Option Nat) : List Char → Bool
  | [] => false
  | c :: s =>
    if isBreak c then tabWithin indent (some 0) s
    else match column with
      | none => tabWithin indent none s
      | some n => (c == '\t' && n < indent) || tabWithin indent (some (n + 1)) s

/-- A word of a plain scalar. It ends before white space, before a colon that ends a key, and
inside brackets before their marks. A colon right before such a mark is an error. -/
def plainWord (inFlow : Bool) : List Char → Option (List Char × List Char)
  | [] => some ([], [])
  | c :: s =>
    if isSpace c || (c == ':' && atEnd s) || (inFlow && isFlowMark c) then some ([], c :: s)
    else if inFlow && c == ':' && (s.head?.any fun d => isFlowMark d || d == '?') then none
    else (plainWord inFlow s).map fun (word, rest) => (c :: word, rest)

/-- A scalar that has been read, what follows it, and whether its last line has ended. -/
structure ScalarText where
  text : List Char
  rest : List Char
  endsLine : Bool := false

theorem length_plainWord {inFlow : Bool} {s word rest : List Char}
    (h : plainWord inFlow s = some (word, rest)) : rest.length ≤ s.length := by
  induction s generalizing word with
  | nil =>
    obtain ⟨-, rfl⟩ := Prod.mk.inj (Option.some.inj h)
    exact Nat.le_refl _
  | cons c s ih =>
    unfold plainWord at h
    split at h
    · obtain ⟨-, rfl⟩ := Prod.mk.inj (Option.some.inj h)
      exact Nat.le_refl _
    · split at h
      · contradiction
      · obtain ⟨⟨_, _⟩, e, eq⟩ := Option.map_eq_some_iff.1 h
        obtain ⟨-, rfl⟩ := Prod.mk.inj eq
        exact Nat.le_succ_of_le (ih e)

/-- A plain scalar. Outside brackets its lines are indented by at least `indent`. -/
def plain (inFlow : Bool) (indent : Nat) (s : List Char) : Option ScalarText :=
  match _h : plainWord inFlow s with
  | none => none
  | some (word, r) =>
    match _g : r.takeWhile isSpace with
    | [] => some { text := word, rest := r }
    | blank :: blanks =>
      let gap := blank :: blanks
      let next := r.dropWhile isSpace
      let column := columnAfter gap
      if tabWithin indent none gap then none
      else
        let stop : ScalarText := { text := word, rest := next, endsLine := column.isSome }
        if !inFlow && column.any (· < indent) then some stop
        else if next.head? == some '#' || (column == some 0 && startsMark next) then some stop
        else (plain inFlow indent next).map fun more =>
          if more.text = [] then stop else { more with text := word ++ gapText gap ++ more.text }
termination_by s.length
decreasing_by
  have a := length_plainWord _h
  have b := congrArg List.length (List.takeWhile_append_dropWhile (p := isSpace) (l := r))
  rw [List.length_append, _g, List.length_cons] at b
  omega

def hexDigit? (c : Char) : Option Nat :=
  if c.isDigit then some (c.toNat - 0x30)
  else if 'a' ≤ c ∧ c ≤ 'f' then some (c.toNat - 0x61 + 10)
  else if 'A' ≤ c ∧ c ≤ 'F' then some (c.toNat - 0x41 + 10)
  else none

def hexCharacter? (count : Nat) (s : List Char) : Option (Char × List Char) :=
  if s.length < count then none
  else do
    let n ← (s.take count).foldlM (fun n c => (hexDigit? c).map (n * 16 + ·)) 0
    if n.isValidChar then some (Char.ofNat n, s.drop count) else none

def escapes : List (Char × Nat) :=
  [('0', 0), ('a', 7), ('b', 8), ('t', 9), ('\t', 9), ('n', 10), ('v', 11), ('f', 12), ('r', 13),
    ('e', 0x1B), (' ', 0x20), ('"', 0x22), ('/', 0x2F), ('\\', 0x5C), ('N', 0x85), ('_', 0xA0),
    ('L', 0x2028), ('P', 0x2029)]

def escape? : List Char → Option (Char × List Char)
  | 'x' :: s => hexCharacter? 2 s
  | 'u' :: s => hexCharacter? 4 s
  | 'U' :: s => hexCharacter? 8 s
  | c :: s => (escapes.lookup c).map fun n => (Char.ofNat n, s)
  | [] => none

theorem length_hexCharacter? {count : Nat} {s rest : List Char} {c : Char}
    (h : hexCharacter? count s = some (c, rest)) : rest.length ≤ s.length := by
  unfold hexCharacter? at h
  split at h
  · contradiction
  · obtain ⟨n, -, h⟩ := Option.bind_eq_some_iff.1 h
    split at h
    · obtain ⟨-, rfl⟩ := Prod.mk.inj (Option.some.inj h)
      simp
    · contradiction

theorem length_escape? {s rest : List Char} {c : Char} (h : escape? s = some (c, rest)) :
    rest.length ≤ s.length := by
  unfold escape? at h
  split at h
  · exact Nat.le_succ_of_le (length_hexCharacter? h)
  · exact Nat.le_succ_of_le (length_hexCharacter? h)
  · exact Nat.le_succ_of_le (length_hexCharacter? h)
  · obtain ⟨n, -, h⟩ := Option.map_eq_some_iff.1 h
    obtain ⟨-, rfl⟩ := Prod.mk.inj h
    exact Nat.le_succ _
  · contradiction

/-- The text up to the closing quote and what follows it. Two single quotes stand for one; between
double quotes a backslash starts an escape, or joins two lines. -/
def quoted (double : Bool) (s : List Char) : Option (List Char × List Char) :=
  match s with
  | [] => none
  | c :: r =>
    if isSpace c then
      let gap := c :: r.takeWhile isSpace
      let next := r.dropWhile isSpace
      if columnAfter gap == some 0 && startsMark next then none
      else (quoted double next).map fun (text, rest) => (gapText gap ++ text, rest)
    else if double && c == '\\' then
      match r with
      | [] => none
      | b :: t =>
        if isBreak b then
          let gap := t.takeWhile isSpace
          let next := t.dropWhile isSpace
          if (columnAfter (b :: gap) == some 0) && startsMark next then none
          else (quoted double next).map fun (text, rest) => (gap.filter isBreak ++ text, rest)
        else match _h : escape? (b :: t) with
          | none => none
          | some (d, next) => (quoted double next).map fun (text, rest) => (d :: text, rest)
    else if double && c == '"' then some ([], r)
    else if !double && c == '\'' then
      match r with
      | '\'' :: t => (quoted double t).map fun (text, rest) => ('\'' :: text, rest)
      | _ => some ([], r)
    else (quoted double r).map fun (text, rest) => (c :: text, rest)
termination_by s.length
decreasing_by
  · have := length_dropWhile_le isSpace r
    simp only [List.length_cons]
    omega
  · have := length_dropWhile_le isSpace t
    simp only [List.length_cons]
    omega
  · have := length_escape? _h
    simp only [List.length_cons] at this ⊢
    omega
  · simp only [List.length_cons]
    omega
  · simp

/-- What becomes of the line breaks at the end of a block scalar. -/
inductive Chomping
  | strip
  | clip
  | keep
deriving DecidableEq

def chomping? : List Char → Option (Chomping × List Char)
  | '+' :: s => some (.keep, s)
  | '-' :: s => some (.strip, s)
  | _ => none

def increment? : List Char → Option (Nat × List Char)
  | c :: s => if c.isDigit then some (c.toNat - 0x30, s) else none
  | [] => none

/-- The two signs behind the mark of a block scalar, in any order. -/
def blockSigns (s : List Char) : Chomping × Option Nat × List Char :=
  match chomping? s with
  | some (chomping, r) => match increment? r with
    | some (n, t) => (chomping, some n, t)
    | none => (chomping, none, r)
  | none => match increment? s with
    | some (n, r) => match chomping? r with
      | some (chomping, t) => (chomping, some n, t)
      | none => (.clip, some n, r)
    | none => (.clip, none, s)

def afterHeader? (s : List Char) : Option (List Char) :=
  let r := s.dropWhile fun c => c == ' ' || c == '\t'
  let r := if r.head? == some '#' then r.dropWhile (!isBreak ·) else r
  match r with
  | [] => some []
  | c :: t => if isBreak c then some t else none

/-- The indentation of a block scalar that does not give it: that of its first line with text, or of
a longer line of spaces before it. No tab may stand there. -/
def detectIndent (longest column : Nat) : List Char → Option Nat
  | [] => some (max longest column)
  | c :: s =>
    if c == ' ' then detectIndent longest (column + 1) s
    else if isBreak c then detectIndent (max longest column) 0 s
    else if c == '\t' then none
    else some (max longest column)

def indentation (indent column : Nat) (breaks : List Char) :
    List Char → Option (List Char × Nat × List Char)
  | [] => some (breaks, column, [])
  | c :: s =>
    if column < indent && c == ' ' then indentation indent (column + 1) breaks s
    else if column < indent && c == '\t' then none
    else if isBreak c then indentation indent 0 (breaks ++ [c]) s
    else some (breaks, column, c :: s)

theorem length_indentation {indent column : Nat} {breaks s b rest : List Char} {n : Nat}
    (h : indentation indent column breaks s = some (b, n, rest)) : rest.length ≤ s.length := by
  induction s generalizing column breaks with
  | nil =>
    simp only [indentation, Option.some.injEq, Prod.mk.injEq] at h
    simp [h.2.2]
  | cons c s ih =>
    unfold indentation at h
    split at h
    · exact Nat.le_succ_of_le (ih h)
    · split at h
      · contradiction
      · split at h
        · exact Nat.le_succ_of_le (ih h)
        · simp only [Option.some.injEq, Prod.mk.injEq] at h
          simp [← h.2.2]

/-- The break between two lines of a block scalar. Folding makes a space of it, unless a line starts
with a blank. -/
def joint (folded : Bool) (lead : List Char) (blankBefore blankAfter : Bool) (breaks : List Char) :
    List Char :=
  if folded && lead == ['\n'] && !blankBefore && !blankAfter then
    if breaks = [] then [' '] else breaks
  else lead ++ breaks

/-- The lines of a block scalar and what follows them. The break behind the last line is `lead`. -/
def blockLines (folded : Bool) (chomping : Chomping) (indent : Nat) (lead : List Char)
    (blankBefore : Bool) (s : List Char) : Option (List Char × List Char) :=
  match _h : indentation indent 0 [] s with
  | none => none
  | some (breaks, column, r) =>
    match _r : r with
    | [] => some (ending chomping lead breaks, [])
    | c :: t =>
      if column = indent then
        let blank := c == ' ' || c == '\t'
        let line := c :: t.takeWhile (!isBreak ·)
        let next := t.dropWhile (!isBreak ·)
        (blockLines folded chomping indent (next.take 1) blank next.tail).map fun (text, rest) =>
          (joint folded lead blankBefore blank breaks ++ line ++ text, rest)
      else some (ending chomping lead breaks, r)
termination_by s.length
decreasing_by
  have a := length_indentation _h
  have b := length_dropWhile_le (!isBreak ·) t
  simp only [List.length_cons, List.length_tail] at a ⊢
  omega
where
  ending (chomping : Chomping) (lead breaks : List Char) : List Char :=
    match chomping with
    | .strip => []
    | .clip => lead
    | .keep => lead ++ breaks

/-- A block scalar inside a collection whose items are indented by at least `parent`, given what
stands after its mark. -/
def block (folded : Bool) (parent : Nat) (s : List Char) : Option (List Char × List Char) :=
  let (chomping, increment, r) := blockSigns s
  if increment = some 0 then none
  else do
    let body ← afterHeader? r
    let indent ← match increment with
      | some n => some (parent - 1 + n)
      | none => (detectIndent 0 0 body).map fun n => max n (max parent 1)
    blockLines folded chomping indent [] false body

end MapLayer.Yaml
