import MapLayer.Json.Basic
import MapLayer.Text.Reader

/-!
The numbers of JSON texts. Integers of 64 bits, signed or unsigned, stay integers; every other number
becomes a float, unless it is beyond the range of floats.
-/

namespace MapLayer.Json

open MapLayer.Text

/-- The largest integer that the digits of a number are collected in. -/
def maxSignificand : Nat := Nat.pow 2 64 - 1

/-- `f * 10 ^ e` with one rounding for the power and one for the product; beyond the range of
powers, two quotients. No result when it would be infinite. -/
def scaled? (f : Float) (e : Int) : Option Float :=
  let power (k : Nat) : Float := Float.ofScientific 1 false k
  if e > 308 then (if f == 0.0 then some f else none)
  else if 0 ≤ e then
    let x := f * power e.toNat
    if x.isInf then none else some x
  else if -308 ≤ e then some (f / power (-e).toNat)
  else if -616 ≤ e then some (f / power 308 / power (-e - 308).toNat)
  else some 0.0

def float? (negative : Bool) (significand : Nat) (exponent : Int) : Option Json :=
  (scaled? (Float.ofNat significand) exponent).map fun x => .float (if negative then -x else x)

def digitValue (c : Char) : Nat := c.toNat - '0'.toNat

/-- Digits collected while they fit, and how many did not. -/
def collect (significand : Nat) : List Char → Nat × Nat
  | [] => (significand, 0)
  | c :: cs =>
    let next := significand * 10 + digitValue c
    if maxSignificand < next then (significand, cs.length + 1) else collect next cs

/-- The value of an exponent's digits, or nothing beyond 32 bits. -/
def exponentValue? (ds : List Char) : Option Nat :=
  ds.foldl (fun n c => n.bind fun n =>
    let next := n * 10 + digitValue c
    if next < Nat.pow 2 31 then some next else none) (some 0)

/-- A number from its parts: sign, digits before the point, digits after it if there is a point,
and the sign and digits of the exponent if there is one. -/
def number? (negative : Bool) (whole : List Char) (fraction : Option (List Char))
    (exponent : Option (Bool × List Char)) : Option Json :=
  let (w, dropped) := collect 0 whole
  let (significand, shift) : Nat × Int := match fraction with
    | none => (w, dropped)
    | some ds =>
      let (n, ignored) := collect w ds
      (n, (dropped : Int) - (ds.length - ignored : Nat))
  match fraction, exponent with
  | none, none =>
    if dropped ≠ 0 then float? negative significand shift
    else if negative then
      if w = 0 || Nat.pow 2 63 < w then float? true w 0 else some (.int (-(w : Int)))
    else some (.int w)
  | _, none => float? negative significand shift
  | _, some (down, ds) =>
    match exponentValue? ds with
    | some e => float? negative significand (if down then shift - e else shift + e)
    | none =>
      if significand ≠ 0 && !down then none
      else some (.float (if negative then -0.0 else 0.0))

def readExponent? (s : List Char) : Option ((Bool × List Char) × List Char) :=
  let (down, r) := match s with
    | '-' :: r => (true, r)
    | '+' :: r => (false, r)
    | r => (false, r)
  match r.takeWhile Char.isDigit with
  | [] => none
  | ds => some ((down, ds), r.dropWhile Char.isDigit)

/-- The digits before the point. A zero stands alone. -/
def readWhole? (s : List Char) : Option (List Char × List Char) :=
  match s.takeWhile Char.isDigit with
  | [] => none
  | '0' :: _ :: _ => none
  | ds => some (ds, s.dropWhile Char.isDigit)

/-- The digits after a point, if there is one; then there is at least one digit. -/
def readFraction? : List Char → Option (Option (List Char) × List Char)
  | '.' :: s => match s.takeWhile Char.isDigit with
    | [] => none
    | ds => some (some ds, s.dropWhile Char.isDigit)
  | s => some (none, s)

def readPower? : List Char → Option (Option (Bool × List Char) × List Char)
  | 'e' :: s | 'E' :: s => (readExponent? s).map fun (e, r) => (some e, r)
  | s => some (none, s)

/-- The parts of a number after its sign: the digits before the point, those after it if there is a
point, and the sign and the digits of the exponent if there is one. -/
structure NumberParts where
  whole : List Char
  fraction : Option (List Char)
  exponent : Option (Bool × List Char)

def readParts? (s : List Char) : Option (NumberParts × List Char) :=
  (readWhole? s).bind fun (whole, r) =>
  (readFraction? r).bind fun (fraction, r) =>
  (readPower? r).map fun (exponent, r) => ({ whole, fraction, exponent }, r)

def NumberParts.value? (negative : Bool) (p : NumberParts) : Option Json :=
  number? negative p.whole p.fraction p.exponent

theorem length_readExponent? {s r : List Char} {e : Bool × List Char}
    (h : readExponent? s = some (e, r)) : r.length ≤ s.length := by
  unfold readExponent? at h
  split at h
  rename_i down t eq
  have ht : t.length ≤ s.length := by
    split at eq <;> obtain ⟨-, rfl⟩ := Prod.mk.inj eq <;> simp
  split at h
  · contradiction
  · obtain ⟨-, rfl⟩ := Prod.mk.inj (Option.some.inj h)
    exact Nat.le_trans (length_dropWhile_le _ _) ht

theorem length_readWhole? {s ds r : List Char} (h : readWhole? s = some (ds, r)) :
    r.length < s.length := by
  unfold readWhole? at h
  have parts : (s.takeWhile Char.isDigit).length + (s.dropWhile Char.isDigit).length = s.length := by
    rw [← List.length_append, List.takeWhile_append_dropWhile]
  split at h
  · contradiction
  · contradiction
  · rename_i one two
    obtain ⟨rfl, rfl⟩ := Prod.mk.inj (Option.some.inj h)
    have : 0 < (s.takeWhile Char.isDigit).length := List.length_pos_iff.2 one
    omega

theorem length_readFraction? {s r : List Char} {ds : Option (List Char)}
    (h : readFraction? s = some (ds, r)) : r.length ≤ s.length := by
  unfold readFraction? at h
  split at h
  · split at h
    · contradiction
    · obtain ⟨-, rfl⟩ := Prod.mk.inj (Option.some.inj h)
      exact Nat.le_trans (length_dropWhile_le _ _) (Nat.le_succ _)
  · obtain ⟨-, rfl⟩ := Prod.mk.inj (Option.some.inj h)
    exact Nat.le_refl _

theorem length_readPower? {s r : List Char} {e : Option (Bool × List Char)}
    (h : readPower? s = some (e, r)) : r.length ≤ s.length := by
  unfold readPower? at h
  split at h
  · obtain ⟨⟨_, _⟩, he, eq⟩ := Option.map_eq_some_iff.1 h
    obtain ⟨-, rfl⟩ := Prod.mk.inj eq
    exact Nat.le_trans (length_readExponent? he) (Nat.le_succ _)
  · obtain ⟨⟨_, _⟩, he, eq⟩ := Option.map_eq_some_iff.1 h
    obtain ⟨-, rfl⟩ := Prod.mk.inj eq
    exact Nat.le_trans (length_readExponent? he) (Nat.le_succ _)
  · obtain ⟨-, rfl⟩ := Prod.mk.inj (Option.some.inj h)
    exact Nat.le_refl _

theorem length_readParts? {s r : List Char} {p : NumberParts} (h : readParts? s = some (p, r)) :
    r.length < s.length := by
  unfold readParts? at h
  obtain ⟨⟨whole, r₁⟩, h₁, h⟩ := Option.bind_eq_some_iff.1 h
  obtain ⟨⟨fraction, r₂⟩, h₂, h⟩ := Option.bind_eq_some_iff.1 h
  obtain ⟨⟨exponent, r₃⟩, h₃, eq⟩ := Option.map_eq_some_iff.1 h
  obtain ⟨-, rfl⟩ := Prod.mk.inj eq
  have a := length_readWhole? h₁
  have b := length_readFraction? h₂
  have c := length_readPower? h₃
  omega

def partsReader : Reader (Bool × NumberParts) := fun s =>
  match s with
  | '-' :: t => match h : readParts? t with
    | none => none
    | some (p, r) => some ⟨(true, p), r, Nat.lt_succ_of_lt (length_readParts? h)⟩
  | s => match h : readParts? s with
    | none => none
    | some (p, r) => some ⟨(false, p), r, length_readParts? h⟩

def numberReader : Reader Json := fun s =>
  (partsReader s).bind fun x => (x.value.2.value? x.value.1).map x.as

end MapLayer.Json
