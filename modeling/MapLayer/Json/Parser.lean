import MapLayer.Json.Ignored
import MapLayer.Json.Shape

/-!
Reading JSON texts. Values may be nested up to 127 deep. Members that a shape leaves out have to be
written well, and are not read.
-/

namespace MapLayer.Json

open MapLayer.Text

def scalarReader : Reader Json := fun s =>
  match s with
  | '"' :: r => (quotedReader r).map fun t => (t.as (.string t.value)).from' (Nat.le_succ _)
  | 'n' :: r => wordReader 'n' ['u', 'l', 'l'] .null ('n' :: r)
  | 't' :: r => wordReader 't' ['r', 'u', 'e'] (.bool true) ('t' :: r)
  | 'f' :: r => wordReader 'f' ['a', 'l', 's', 'e'] (.bool false) ('f' :: r)
  | s => numberReader s

/-- The items of an array after its first bracket, or after a comma. -/
def itemsReader (item : Nat → Reader Json) (position : Nat) : Reader (List Json) := fun s =>
  match item position (skip s) with
  | none => none
  | some first =>
    have start := length_skip_le s
    have shorter := first.shorter
    match h : skip first.rest with
    | ']' :: r =>
      some ⟨[first.value], r, by
        have := length_skip_le first.rest
        rw [h, List.length_cons] at this
        omega⟩
    | ',' :: r =>
      have fewer : r.length < s.length := by
        have := length_skip_le first.rest
        rw [h, List.length_cons] at this
        omega
      (itemsReader item (position + 1) r).map fun others =>
        (others.as (first.value :: others.value)).from' (Nat.le_of_lt fewer)
    | _ => none
termination_by s => s.length

def nameReader : Reader String := fun s =>
  match s with
  | '"' :: r => match quotedReader r with
    | none => none
    | some name => match h : skip name.rest with
      | ':' :: t => some ⟨name.value, t, by
          have := length_skip_le name.rest
          have := name.shorter
          simp_all only [List.length_cons]
          omega⟩
      | _ => none
  | _ => none

/-- The value of a member, or nothing if it is not read. -/
def memberReader : Option (Reader Json) → Reader (Option Json)
  | some read => fun s => (read s).map fun x => x.as (some x.value)
  | none => fun s => (ignoredReader s).map fun x => x.as none

/-- The members of an object after its first brace, or after a comma. -/
def membersReader (item : String → Option (Reader Json)) : Reader (List (String × Json)) := fun s =>
  match nameReader (skip s) with
  | none => none
  | some name =>
    have start := length_skip_le s
    have shorter := name.shorter
    match memberReader (item name.value) (skip name.rest) with
    | none => none
    | some value =>
      have start' := length_skip_le name.rest
      have shorter' := value.shorter
      let members := value.value.toList.map (name.value, ·)
      match h : skip value.rest with
      | '}' :: r =>
        some ⟨members, r, by
          have := length_skip_le value.rest
          rw [h, List.length_cons] at this
          omega⟩
      | ',' :: r =>
        have fewer : r.length < s.length := by
          have := length_skip_le value.rest
          rw [h, List.length_cons] at this
          omega
        (membersReader item r).map fun others =>
          (others.as (members ++ others.value)).from' (Nat.le_of_lt fewer)
      | _ => none
termination_by s => s.length

/-- A value that holds values nested at most `depth` deep, without what its shape leaves out. -/
def valueReader : Nat → Shape → Reader Json
  | 0, _, s => scalarReader s
  | depth + 1, shape, s => match s with
    | '[' :: r => match h : skip r with
      | ']' :: t => some ⟨.array [], t, by
          have := length_skip_le r
          rw [h] at this
          simp only [List.length_cons] at this ⊢
          omega⟩
      | _ => (itemsReader (fun n => valueReader depth (shape.item n)) 0 r).map fun items =>
          (items.as (.array items.value)).from' (Nat.le_succ _)
    | '{' :: r => match h : skip r with
      | '}' :: t => some ⟨.object [], t, by
          have := length_skip_le r
          rw [h] at this
          simp only [List.length_cons] at this ⊢
          omega⟩
      | _ =>
        (membersReader (fun name => (shape.member? name).map (valueReader depth)) r).map
          fun members => (members.as (.object members.value)).from' (Nat.le_succ _)
    | s => scalarReader s

/-- How deep arrays and objects may be nested. What is not read may be nested deeper. -/
def maxDepth : Nat := 127

/-- The parts of some shape of the value that a whole text is, as the text writes it. -/
def parseAs? (shape : Shape) (s : String) : Option Json :=
  match valueReader maxDepth shape (skip s.toList) with
  | some v => if skip v.rest = [] then some v.value else none
  | none => none

def parse? (s : String) : Option Json := parseAs? .whole s

end MapLayer.Json
