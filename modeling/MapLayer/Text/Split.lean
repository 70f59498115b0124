/-!
Cutting a text at separators and putting pieces together again. Main statement: the pieces of a
text, joined by the separator they were cut at, are the text.
-/

namespace MapLayer.Text

/-- The rest of a text that starts with `front`. -/
def after? : (front s : List Char) → Option (List Char)
  | [], s => some s
  | _ :: _, [] => none
  | c :: front, d :: s => if c = d then after? front s else none

/-- The text before the first occurrence of `mark` and the text after it. -/
def cut? (mark : List Char) : List Char → Option (List Char × List Char)
  | [] => if mark = [] then some ([], []) else none
  | c :: s => match after? mark (c :: s) with
    | some rest => some ([], rest)
    | none => (cut? mark s).map fun (before, rest) => (c :: before, rest)

def occursIn (mark s : List Char) : Bool :=
  (cut? mark s).isSome

/-- The text before the last occurrence of a character and the text after it. -/
def cutLast? (mark : Char) : List Char → Option (List Char × List Char)
  | [] => none
  | c :: s => match cutLast? mark s with
    | some (before, rest) => some (c :: before, rest)
    | none => if c = mark then some ([], s) else none

def pieces (mark : Char) : List Char → List (List Char)
  | [] => [[]]
  | c :: s =>
    if c = mark then [] :: pieces mark s
    else match pieces mark s with
      | [] => [[c]]
      | p :: ps => (c :: p) :: ps

def join (mark : List Char) : List (List Char) → List Char
  | [] => []
  | [p] => p
  | p :: q :: ps => p ++ mark ++ join mark (q :: ps)

theorem after?_eq_some_iff {front s rest : List Char} :
    after? front s = some rest ↔ s = front ++ rest := by
  fun_induction after? front s with
  | case1 s => simp [eq_comm]
  | case2 => simp
  | case3 front d s ih => simpa using ih
  | case4 c front d s h => simp [Ne.symm h]

theorem append_of_cut? {mark s before rest : List Char} (h : cut? mark s = some (before, rest)) :
    s = before ++ mark ++ rest := by
  induction s generalizing before with
  | nil =>
    simp only [cut?] at h
    split at h
    · rename_i e
      obtain ⟨rfl, rfl⟩ := Prod.mk.inj (Option.some.inj h)
      simp [e]
    · contradiction
  | cons c s ih =>
    simp only [cut?] at h
    split at h
    · rename_i r e
      obtain ⟨rfl, rfl⟩ := Prod.mk.inj (Option.some.inj h)
      simpa using after?_eq_some_iff.1 e
    · obtain ⟨⟨b, r⟩, e, heq⟩ := Option.map_eq_some_iff.1 h
      obtain ⟨rfl, rfl⟩ := Prod.mk.inj heq
      simp [ih e]

theorem length_of_cut? {mark s before rest : List Char} (h : cut? mark s = some (before, rest)) :
    s.length = before.length + mark.length + rest.length := by
  simp [append_of_cut? h, Nat.add_assoc]

theorem pieces_ne_nil (mark : Char) (s : List Char) : pieces mark s ≠ [] := by
  cases s with
  | nil => simp [pieces]
  | cons c s =>
    rw [pieces]
    split
    · simp
    · split <;> simp

theorem join_pieces (mark : Char) (s : List Char) : join [mark] (pieces mark s) = s := by
  induction s with
  | nil => rfl
  | cons c s ih =>
    rw [pieces]
    split
    · rename_i h
      subst h
      cases e : pieces c s with
      | nil => exact absurd e (pieces_ne_nil c s)
      | cons p ps => rw [e] at ih; simp [join, ih]
    · cases e : pieces mark s with
      | nil => exact absurd e (pieces_ne_nil mark s)
      | cons p ps =>
        rw [e] at ih
        cases ps <;> simp_all [join]

/-- The text with every occurrence of `mark`, found from the left without overlap, replaced. -/
def replace (mark new : List Char) (s : List Char) : List Char :=
  if _blank : mark = [] then s
  else match _h : cut? mark s with
    | none => s
    | some (before, rest) => before ++ new ++ replace mark new rest
termination_by s.length
decreasing_by
  have := length_of_cut? _h
  have : 0 < mark.length := List.length_pos_iff.2 _blank
  omega

/-- The pieces between the occurrences of `mark`, found from the left without overlap. -/
def splitOn (mark : List Char) (s : List Char) : List (List Char) :=
  if _blank : mark = [] then [s]
  else match _h : cut? mark s with
    | none => [s]
    | some (before, rest) => before :: splitOn mark rest
termination_by s.length
decreasing_by
  have := length_of_cut? _h
  have : 0 < mark.length := List.length_pos_iff.2 _blank
  omega

/-- A line without the carriage return that belonged to its line break. -/
def dropReturn (line : List Char) : List Char :=
  if line.getLast? = some '\r' then line.dropLast else line

/-- The lines of a text. Each ends at a line feed, with the carriage return before it if there is
one; the last may go without, and then keeps a carriage return. -/
def lines (s : List Char) : List (List Char) :=
  let ps := pieces '\n' s
  let closed := ps.dropLast.map dropReturn
  match ps.getLast? with
  | some [] | none => closed
  | some last => closed ++ [last]

end MapLayer.Text
