/-!
The shortest decimal that reads back as a given binary64 number.

The reals that round to the number form an interval. Digit counts are tried from one upwards, and
the first grid of decimals with a point in the interval gives the answer, the nearer point if there
are two. All arithmetic is exact.
-/

namespace MapLayer.Decimal

/-- A finite number `significand * 2 ^ exponent`. It is `narrow` when the gap to the number below
is half the gap to the number above. -/
structure Binary where
  significand : Nat
  exponent : Int
  narrow : Bool
deriving DecidableEq, Repr

def Binary.ofBits (b : UInt64) : Binary :=
  let e : Nat := (b.toNat / Nat.pow 2 52) % Nat.pow 2 11
  let f : Nat := b.toNat % Nat.pow 2 52
  if e = 0 then ⟨f, -1074, false⟩ else ⟨Nat.pow 2 52 + f, (e : Int) - 1075, f == 0 && e > 1⟩

/-- The number `digits * 10 ^ exponent`. -/
structure Scaled where
  digits : Nat
  exponent : Int
deriving DecidableEq, Repr

/-- Which of two equally near decimals is taken. -/
inductive Tie
  | toEven
  | up

def compareScaled (a : Nat) (i : Int) (n : Nat) (j : Int) : Ordering :=
  compare (a * Nat.pow 10 i.toNat * Nat.pow 2 (-j).toNat)
    (n * Nat.pow 2 j.toNat * Nat.pow 10 (-i).toNat)

/-- Whether `d` is one of the reals that round to `x`. An end of the interval rounds to `x` when the
significand of `x` is even. -/
def Binary.readsBack (x : Binary) (d : Scaled) : Bool :=
  let closed := x.significand % 2 == 0
  let lower := if x.narrow then 4 * x.significand - 1 else 4 * x.significand - 2
  let above := compareScaled d.digits d.exponent lower (x.exponent - 2)
  let below := compareScaled d.digits d.exponent (4 * x.significand + 2) (x.exponent - 2)
  (above == .gt || closed && above == .eq) && (below == .lt || closed && below == .eq)

/-- The least `k` with `x < 10 ^ k`, for a positive `x`. The estimate from the binary logarithm is
at most two too low. -/
def Binary.scale (x : Binary) : Int :=
  let guess := ((x.significand.log2 : Int) + x.exponent) * 30103 / 100000
  if compareScaled 1 guess x.significand x.exponent == .gt then guess
  else if compareScaled 1 (guess + 1) x.significand x.exponent == .gt then guess + 1
  else guess + 2

def Binary.floorAt (x : Binary) (g : Int) : Nat :=
  x.significand * Nat.pow 2 x.exponent.toNat * Nat.pow 10 (-g).toNat /
    (Nat.pow 2 (-x.exponent).toNat * Nat.pow 10 g.toNat)

/-- The point of the grid `10 ^ g` that reads back as `x` and is nearest to it. -/
def Binary.onGrid? (tie : Tie) (x : Binary) (g : Int) : Option Scaled :=
  let low : Scaled := ⟨x.floorAt g, g⟩
  let high : Scaled := ⟨x.floorAt g + 1, g⟩
  match x.readsBack low, x.readsBack high with
  | true, true =>
    match compareScaled (low.digits + high.digits) g (2 * x.significand) x.exponent with
    | .gt => some low
    | .lt => some high
    | .eq => match tie with
      | .up => some high
      | .toEven => if low.digits % 2 = 0 then some low else some high
  | true, false => some low
  | false, true => some high
  | false, false => none

def Binary.exact (x : Binary) : Scaled :=
  if x.exponent < 0 then ⟨x.significand * Nat.pow 5 (-x.exponent).toNat, x.exponent⟩
  else ⟨x.significand * Nat.pow 2 x.exponent.toNat, 0⟩

/-- The same number without zeros at its end. -/
def Scaled.reduced (d : Scaled) : Scaled :=
  if d.digits ≠ 0 ∧ d.digits % 10 = 0 then Scaled.reduced ⟨d.digits / 10, d.exponent + 1⟩ else d
termination_by d.digits
decreasing_by omega

/-- The shortest decimal for `x`. Seventeen digits are always enough. -/
def Binary.shortest (tie : Tie) (x : Binary) : Scaled :=
  if x.significand = 0 then ⟨0, 0⟩
  else
    let k := x.scale
    let found := (List.range 17).findSome? fun n => x.onGrid? tie (k - (n + 1 : Nat))
    (found.getD x.exact).reduced

end MapLayer.Decimal
