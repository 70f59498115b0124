import MapLayer.Query.Basic
import MapLayer.Text.Blank
import MapLayer.Text.Reader

/-!
Boolean combinations and their reader: `not` binds tighter than `and`, `and` tighter than `or`, and
parentheses group. The same rules hold for tests of fields and for the values of one field.
-/

namespace MapLayer

inductive Clause (α : Type)
  | atom (a : α)
  | not (c : Clause α)
  | and (cs : List (Clause α))
  | or (cs : List (Clause α))

namespace Clause

open MapLayer.Text

variable {α : Type}

def skip (s : List Char) : List Char := s.dropWhile isSpacing

theorem length_skip_le (s : List Char) : (skip s).length ≤ s.length :=
  length_dropWhile_le _ s

/-- The text after a word in any letter case. -/
def afterWord? : (word s : List Char) → Option (List Char)
  | [], s => some s
  | _ :: _, [] => none
  | w :: word, c :: s => if c.toLower = w then afterWord? word s else none

/-- The text after a keyword, which spacing or a parenthesis has to follow. -/
def afterKeyword? (word s : List Char) : Option (List Char) :=
  match afterWord? word s with
  | some (c :: r) => if isSpacing c || c == '(' then some (c :: r) else none
  | _ => none

theorem length_afterWord? {word s r : List Char} (h : afterWord? word s = some r) :
    s.length = word.length + r.length := by
  fun_induction afterWord? word s with
  | case1 s => obtain rfl := Option.some.inj h; simp
  | case2 => contradiction
  | case3 _ c s ih =>
    have := ih h
    simp only [List.length_cons]
    omega
  | case4 => contradiction

theorem length_afterKeyword? {word s r : List Char} (h : afterKeyword? word s = some r) :
    s.length = word.length + r.length := by
  unfold afterKeyword? at h
  split at h
  · rename_i c t e
    split at h
    · obtain rfl := Option.some.inj h
      exact length_afterWord? e
    · contradiction
  · contradiction

/-- One operand stands for itself. -/
def joined (wrap : List (Clause α) → Clause α) (first : Clause α) : List (Clause α) → Clause α
  | [] => first
  | others => wrap (first :: others)

/-- What is read of a text, and what is left of it, perhaps all. -/
structure Kept (β : Type) (s : List Char) where
  value : β
  rest : List Char
  noLonger : rest.length ≤ s.length

mutual

def readOr (atom : Reader α) (s : List Char) : Option (Taken (Clause α) s) :=
  match readAnd atom s with
  | none => none
  | some first =>
    have _shorter := first.shorter
    let others := readOrs atom first.rest
    some ⟨joined .or first.value others.value, others.rest,
      Nat.lt_of_le_of_lt others.noLonger first.shorter⟩
termination_by (s.length, 3)

def readOrs (atom : Reader α) (s : List Char) : Kept (List (Clause α)) s :=
  match h : afterKeyword? ['o', 'r'] (skip s) with
  | none => ⟨[], s, Nat.le_refl _⟩
  | some r =>
    have fewer : (skip r).length < s.length := by
      have := length_afterKeyword? h
      have := length_skip_le s
      have := length_skip_le r
      simp only [List.length_cons, List.length_nil] at *
      omega
    match readAnd atom (skip r) with
    | none => ⟨[], s, Nat.le_refl _⟩
    | some next =>
      have shorter := next.shorter
      let others := readOrs atom next.rest
      ⟨next.value :: others.value, others.rest, by have := others.noLonger; omega⟩
termination_by (s.length, 0)

def readAnd (atom : Reader α) (s : List Char) : Option (Taken (Clause α) s) :=
  match readNot atom s with
  | none => none
  | some first =>
    have _shorter := first.shorter
    let others := readAnds atom first.rest
    some ⟨joined .and first.value others.value, others.rest,
      Nat.lt_of_le_of_lt others.noLonger first.shorter⟩
termination_by (s.length, 2)

def readAnds (atom : Reader α) (s : List Char) : Kept (List (Clause α)) s :=
  match h : afterKeyword? ['a', 'n', 'd'] (skip s) with
  | none => ⟨[], s, Nat.le_refl _⟩
  | some r =>
    have fewer : (skip r).length < s.length := by
      have := length_afterKeyword? h
      have := length_skip_le s
      have := length_skip_le r
      simp only [List.length_cons, List.length_nil] at *
      omega
    match readNot atom (skip r) with
    | none => ⟨[], s, Nat.le_refl _⟩
    | some next =>
      have shorter := next.shorter
      let others := readAnds atom next.rest
      ⟨next.value :: others.value, others.rest, by have := others.noLonger; omega⟩
termination_by (s.length, 0)

/-- An operand: a negation, a group, or else an atom. -/
def readNot (atom : Reader α) (s : List Char) : Option (Taken (Clause α) s) :=
  match readNegation atom s with
  | some c => some c
  | none => match readGroup atom s with
    | some c => some c
    | none => (atom s).map fun a => a.as (.atom a.value)
termination_by (s.length, 1)

def readNegation (atom : Reader α) (s : List Char) : Option (Taken (Clause α) s) :=
  match h : afterKeyword? ['n', 'o', 't'] s with
  | none => none
  | some r =>
    have fewer : (skip r).length < s.length := by
      have := length_afterKeyword? h
      have := length_skip_le r
      simp only [List.length_cons, List.length_nil] at *
      omega
    (readNot atom (skip r)).map fun c => (c.as (.not c.value)).from' (Nat.le_of_lt fewer)
termination_by (s.length, 0)

def readGroup (atom : Reader α) (s : List Char) : Option (Taken (Clause α) s) :=
  match s with
  | '(' :: r =>
    have start := length_skip_le r
    match readOr atom (skip r) with
    | none => none
    | some c => match h : skip c.rest with
      | ')' :: t => some ⟨c.value, t, by
          have := length_skip_le c.rest
          have := c.shorter
          simp_all only [List.length_cons]
          omega⟩
      | _ => none
  | _ => none
termination_by (s.length, 0)

end

mutual

def node (leaf : α → QueryNode) : Clause α → QueryNode
  | .atom a => leaf a
  | .not c => .function "not" [node leaf c]
  | .and cs => .function "and" (nodes leaf cs)
  | .or cs => .function "or" (nodes leaf cs)

def nodes (leaf : α → QueryNode) : List (Clause α) → List QueryNode
  | [] => []
  | c :: cs => node leaf c :: nodes leaf cs

end

end Clause

end MapLayer
