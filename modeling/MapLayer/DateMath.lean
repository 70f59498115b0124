import MapLayer.Calendar.Reader

/-!
Date expressions: an anchor followed by operations such as `-15m` and `/d`, worked out from left to
right.
-/

namespace MapLayer.DateMath

inductive TimeUnit
  | second
  | minute
  | hour
  | day
  | week
  | month
  | year
deriving DecidableEq, Repr

/-- Minutes and months differ in the case of their letter. -/
def TimeUnit.ofChar? : Char → Option TimeUnit
  | 's' => some .second
  | 'm' => some .minute
  | 'h' | 'H' => some .hour
  | 'd' => some .day
  | 'w' => some .week
  | 'M' => some .month
  | 'y' => some .year
  | _ => none

inductive Operation
  | shift (amount : Int) (unit : TimeUnit)
  | round (unit : TimeUnit)
deriving DecidableEq, Repr

def shift (t : Instant) (amount : Int) : TimeUnit → Option Instant
  | .second => t.addSeconds? amount
  | .minute => t.addSeconds? (amount * 60)
  | .hour => t.addSeconds? (amount * 3600)
  | .day => t.addSeconds? (amount * 86400)
  | .week => t.addSeconds? (amount * 604800)
  | .month => t.addMonths? amount
  | .year => t.addMonths? (amount * 12)

def startOf (t : Instant) : TimeUnit → Option Instant
  | .second => some ⟨t.day, t.second, 0⟩
  | .minute => some ⟨t.day, t.second / 60 * 60, 0⟩
  | .hour => some ⟨t.day, t.second / 3600 * 3600, 0⟩
  | .day => some (.startOfDay t.day)
  | .week =>
    let monday := t.day - Date.daysFromMonday t.day
    if Date.inRange monday then some (.startOfDay monday) else none
  | .month =>
    let d := Date.ofNumber t.day
    ({ d with day := 1 } : Date).number?.map .startOfDay
  | .year => (⟨(Date.ofNumber t.day).year, 1, 1⟩ : Date).number?.map .startOfDay

/-- The start of a unit, or its last millisecond. -/
def round (t : Instant) (unit : TimeUnit) (up : Bool) : Option Instant :=
  if up then do (← shift (← startOf t unit) 1 unit).previousMilli?
  else startOf t unit

def Operation.apply (up : Bool) (t : Instant) : Operation → Option Instant
  | .shift amount unit => DateMath.shift t amount unit
  | .round unit => DateMath.round t unit up

def maxAmount : Nat := Nat.pow 2 63 - 1

def amount? (ds : List Char) : Option Nat :=
  if ds = [] then some 1
  else if Instant.valueOf ds ≤ maxAmount then some (Instant.valueOf ds) else none

def operation? (sign : Char) (ds : List Char) (unit : Char) : Option Operation := do
  let amount ← amount? ds
  let unit ← TimeUnit.ofChar? unit
  match sign with
  | '+' => some (.shift amount unit)
  | '-' => some (.shift (-amount) unit)
  | '/' => if ds = [] then some (.round unit) else none
  | _ => none

def operations? (s : List Char) : Option (List Operation) :=
  match s with
  | [] => some []
  | sign :: r =>
    match _h : r.dropWhile Char.isDigit with
    | [] => none
    | unit :: rest => do
      let first ← operation? sign (r.takeWhile Char.isDigit) unit
      let others ← operations? rest
      return first :: others
termination_by s.length
decreasing_by
  have := (List.dropWhile_sublist Char.isDigit (l := r)).length_le
  rw [_h] at this
  simp only [List.length_cons] at *
  omega

def run (up : Bool) (t : Instant) (ops : List Operation) : Option Instant :=
  ops.foldlM (Operation.apply up) t

/-- The instant and the operations that an expression starts from: `now`, or an absolute instant
and two bars. -/
def anchor? (now : Instant) (s : List Char) : Option (Instant × List Char) :=
  match Text.after? ['n', 'o', 'w'] s with
  | some rest => some (now, rest)
  | none => match Text.cut? ['|', '|'] s with
    | some (anchor, rest) => (Instant.ofText? anchor).map (·, rest)
    | none => (Instant.ofText? s).map (·, [])

/-- The instant of an expression. Rounding goes to the end of a unit when `up` is set. -/
def eval? (expr : String) (now : Instant) (up : Bool) : Option Instant := do
  let s := Text.trim expr.toList
  if s = [] then none
  else
    let (t, rest) ← anchor? now s
    run up t (← operations? rest)

end MapLayer.DateMath
