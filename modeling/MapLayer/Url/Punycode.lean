import MapLayer.Text.Split

/-! Punycode: the ASCII form of a label with other letters, and the label of such a form. -/

namespace MapLayer.Url.Punycode

def digit (d : Nat) : Char := Char.ofNat (if d < 26 then 0x61 + d else 0x30 + (d - 26))

/-- Divides until the value is small, counting the rounds by 36. -/
def shrink : (fuel delta k : Nat) → Nat × Nat
  | 0, delta, k => (delta, k)
  | fuel + 1, delta, k => if 455 < delta then shrink fuel (delta / 35) (k + 36) else (delta, k)

/-- The bias after a number has been written. -/
def adapt (delta points : Nat) (isFirst : Bool) : Nat :=
  let delta := if isFirst then delta / 700 else delta / 2
  let (delta, k) := shrink delta (delta + delta / points) 0
  k + 36 * delta / (delta + 38)

def threshold (k bias : Nat) : Nat :=
  if k ≤ bias then 1 else if bias + 26 ≤ k then 26 else k - bias

def digits (bias : Nat) : (fuel k q : Nat) → List Char
  | 0, _, _ => []
  | fuel + 1, k, q =>
    let t := threshold k bias
    if q < t then [digit q]
    else digit (t + (q - t) % (36 - t)) :: digits bias fuel (k + 36) ((q - t) / (36 - t))

/-- What is known while the characters from one code point on are written. -/
structure State where
  delta : Nat
  bias : Nat
  written : Nat
  output : List Char

/-- Passes over one character of the label while the code point `m` is written. -/
def visit (basic m : Nat) (st : State) (c : Char) : State :=
  if c.toNat < m then { st with delta := st.delta + 1 }
  else if c.toNat = m then
    { delta := 0
      bias := adapt st.delta (st.written + 1) (st.written == basic)
      written := st.written + 1
      output := st.output ++ digits st.bias (st.delta + 1) 36 st.delta }
  else st

/-- Writes the code points from `n` on, at most `fuel` of them. -/
def encodeFrom (label : List Char) (basic : Nat) : (fuel n : Nat) → State → List Char
  | 0, _, st => st.output
  | fuel + 1, n, st =>
    match (label.filter fun c => n ≤ c.toNat).map Char.toNat |>.min? with
    | none => st.output
    | some m =>
      let st := { st with delta := st.delta + (m - n) * (st.written + 1) }
      let st := label.foldl (visit basic m) st
      encodeFrom label basic fuel (m + 1) { st with delta := st.delta + 1 }

def encode (label : List Char) : List Char :=
  let basic := label.filter fun c => c.toNat < 0x80
  let start := if basic = [] then [] else basic ++ ['-']
  encodeFrom label basic.length label.length 0x80 ⟨0, 72, basic.length, start⟩

def digitValue? (c : Char) : Option Nat :=
  if 'a' ≤ c ∧ c ≤ 'z' then some (c.toNat - 0x61)
  else if c.isDigit then some (c.toNat - 0x30 + 26)
  else none

/-- The number at the front of some digits added to `i`, and what follows it. Numbers have 32 bits,
and so has the weight of each digit. -/
def readNumber? (bias : Nat) : (k weight i : Nat) → List Char → Option (Nat × List Char)
  | _, _, _, [] => none
  | k, weight, i, c :: s =>
    match digitValue? c with
    | none => none
    | some d =>
      let next := i + d * weight
      let t := threshold k bias
      if Nat.pow 2 32 ≤ next then none
      else if d < t then some (next, s)
      else if Nat.pow 2 32 ≤ weight * (36 - t) then none
      else readNumber? bias (k + 36) (weight * (36 - t)) next s

/-- Inserts the characters that digits write into a text, up to `fuel` of them. Each number gives a
character and its place. -/
def insertAll : (fuel bias n i : Nat) → List Char → List Char → Option (List Char)
  | _, _, _, _, label, [] => some label
  | 0, _, _, _, _, _ => none
  | fuel + 1, bias, n, i, label, s => do
    let (next, rest) ← readNumber? bias 36 1 i s
    let places := label.length + 1
    let n := n + next / places
    let place := next % places
    if n.isValidChar then
      insertAll fuel (adapt (next - i) places (i == 0)) n (place + 1)
        (label.insertIdx place (Char.ofNat n)) rest
    else none

/-- The label of an ASCII form without its mark. The letters before the last dash, if there are any,
are its own. -/
def decode? (s : List Char) : Option (List Char) :=
  let (own, digits) := match Text.cutLast? '-' s with
    | some ([], _) | none => ([], s)
    | some parts => parts
  insertAll digits.length 72 0x80 0 own digits

end MapLayer.Url.Punycode
