import MapLayer.Json.Number
import MapLayer.Json.Token

/-!
Passing over a value that is not read. It has to be written as JSON, but its numbers may have any
size, its escapes need not write characters, and it may be nested to any depth.
-/

namespace MapLayer.Json

open MapLayer.Text

/-- The text behind the closing quote. -/
def afterQuoted? : List Char → Option (List Char)
  | [] => none
  | '"' :: r => some r
  | '\\' :: 'u' :: a :: b :: c :: d :: r =>
    if (unit? a b c d).isSome then afterQuoted? r else none
  | '\\' :: c :: r => if (escaped? c).isSome then afterQuoted? r else none
  | c :: r => if c.toNat < 0x20 then none else afterQuoted? r

theorem length_afterQuoted? {s r : List Char} (h : afterQuoted? s = some r) :
    r.length < s.length := by
  fun_induction afterQuoted? s with
  | case1 => contradiction
  | case2 => simp_all
  | case3 _ _ _ _ _ _ ih =>
    have := ih h
    simp only [List.length_cons]
    omega
  | case4 => contradiction
  | case5 _ _ _ _ ih =>
    have := ih h
    simp only [List.length_cons]
    omega
  | case6 => contradiction
  | case7 => contradiction
  | case8 _ _ _ _ _ _ ih => exact Nat.lt_succ_of_lt (ih h)

inductive Bracket
  | array
  | object

inductive Expected
  | value
  /-- A value, or the end of an array. -/
  | firstItem
  | name
  /-- A name with its colon, or the end of an object. -/
  | firstName
  /-- A comma, or the end of what is open. -/
  | comma

/-- A place in a value that is passed over: the brackets that are open there, the innermost first,
and what comes next. -/
structure Place where
  brackets : List Bracket := []
  next : Expected := .value

def Place.isEnd (p : Place) : Bool := p.brackets.isEmpty && p.next matches .comma

/-- A text, a number or a word, whatever it is. -/
def ignoredScalar : Reader Unit := fun s =>
  match s with
  | '"' :: r => match h : afterQuoted? r with
    | none => none
    | some t => some ⟨(), t, Nat.lt_succ_of_lt (length_afterQuoted? h)⟩
  | 'n' :: r => wordReader 'n' ['u', 'l', 'l'] () ('n' :: r)
  | 't' :: r => wordReader 't' ['r', 'u', 'e'] () ('t' :: r)
  | 'f' :: r => wordReader 'f' ['a', 'l', 's', 'e'] () ('f' :: r)
  | s => (partsReader s).map fun x => x.as ()

def ignoredValue (brackets : List Bracket) : Reader Place := fun s =>
  match s with
  | '[' :: r => some ⟨⟨.array :: brackets, .firstItem⟩, r, shorter_tail r⟩
  | '{' :: r => some ⟨⟨.object :: brackets, .firstName⟩, r, shorter_tail r⟩
  | s => (ignoredScalar s).map fun x => x.as ⟨brackets, .comma⟩

def ignoredName (brackets : List Bracket) : Reader Place := fun s =>
  match s with
  | '"' :: r => match h : afterQuoted? r with
    | none => none
    | some t => match g : skip t with
      | ':' :: u => some ⟨⟨brackets, .value⟩, u, by
          have a := length_afterQuoted? h
          have b := length_skip_le t
          rw [g] at b
          simp only [List.length_cons] at b ⊢
          omega⟩
      | _ => none
  | _ => none

def ignoredPart (p : Place) : Reader Place := fun s =>
  match p.next, p.brackets, s with
  | .firstItem, .array :: outer, ']' :: r => some ⟨⟨outer, .comma⟩, r, shorter_tail r⟩
  | .firstName, .object :: outer, '}' :: r => some ⟨⟨outer, .comma⟩, r, shorter_tail r⟩
  | .comma, .array :: outer, ']' :: r => some ⟨⟨outer, .comma⟩, r, shorter_tail r⟩
  | .comma, .object :: outer, '}' :: r => some ⟨⟨outer, .comma⟩, r, shorter_tail r⟩
  | .comma, .array :: outer, ',' :: r => some ⟨⟨.array :: outer, .value⟩, r, shorter_tail r⟩
  | .comma, .object :: outer, ',' :: r => some ⟨⟨.object :: outer, .name⟩, r, shorter_tail r⟩
  | .comma, _, _ => none
  | .value, brackets, s | .firstItem, brackets, s => ignoredValue brackets s
  | .name, brackets, s | .firstName, brackets, s => ignoredName brackets s

/-- The text behind a value, from some place in it on. -/
def afterIgnored? (p : Place) (s : List Char) : Option (List Char) :=
  if p.isEnd then some s
  else match ignoredPart p (skip s) with
    | none => none
    | some x => afterIgnored? x.value x.rest
termination_by s.length
decreasing_by exact Nat.lt_of_lt_of_le x.shorter (length_skip_le s)

theorem length_afterIgnored? {p : Place} {s r : List Char} (h : afterIgnored? p s = some r) :
    r.length ≤ s.length := by
  fun_induction afterIgnored? p s with
  | case1 => simp_all
  | case2 => contradiction
  | case3 p s _ x _ ih =>
    exact Nat.le_trans (ih h) (Nat.le_of_lt (Nat.lt_of_lt_of_le x.shorter (length_skip_le s)))

def ignoredReader : Reader Unit := fun s =>
  (ignoredValue [] s).bind fun x =>
    match h : afterIgnored? x.value x.rest with
    | none => none
    | some r => some ⟨(), r, Nat.lt_of_le_of_lt (length_afterIgnored? h) x.shorter⟩

end MapLayer.Json
