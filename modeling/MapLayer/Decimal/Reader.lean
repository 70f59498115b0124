import MapLayer.Text.Blank

/-! Reading floats: digits with a point and an exponent, or the names of infinity and of no number. -/

namespace MapLayer.Decimal

def natOf (ds : List Char) : Nat :=
  ds.foldl (fun n c => n * 10 + (c.toNat - 0x30)) 0

/-- The nearest float to `significand * 10 ^ exponent`. Far beyond the range of floats no power is
computed. -/
def nearestFloat (significand : Nat) (exponent : Int) : Float :=
  let magnitude := (Nat.log2 significand : Int) * 30103 / 100000 + exponent
  if significand = 0 || magnitude < -400 then 0.0
  else if 400 < magnitude then 1.0 / 0.0
  else Float.ofScientific significand (exponent < 0) exponent.natAbs

/-- The sign at the front of a text, and the text after it. -/
def sign (s : List Char) : Bool × List Char :=
  match s with
  | '-' :: r => (true, r)
  | '+' :: r => (false, r)
  | r => (false, r)

def fractionDigits (s : List Char) : List Char × List Char :=
  match s with
  | '.' :: r => (r.takeWhile Char.isDigit, r.dropWhile Char.isDigit)
  | r => ([], r)

def exponent? (s : List Char) : Option Int :=
  match s with
  | [] => some 0
  | e :: r =>
    if e = 'e' ∨ e = 'E' then
      let (negative, ds) := sign r
      if ds = [] || !ds.all Char.isDigit then none
      else some (if negative then -(natOf ds : Int) else natOf ds)
    else none

/-- A float written without a sign. -/
def magnitude? (s : List Char) : Option Float :=
  let word := String.ofList (s.map Char.toLower)
  if word = "inf" || word = "infinity" then some (1.0 / 0.0)
  else if word = "nan" then some (0.0 / 0.0)
  else
    let whole := s.takeWhile Char.isDigit
    let (fraction, r) := fractionDigits (s.dropWhile Char.isDigit)
    if whole = [] && fraction = [] then none
    else (exponent? r).map fun e =>
      nearestFloat (natOf (whole ++ fraction)) (e - (fraction.length : Int))

def float? (s : List Char) : Option Float :=
  let (negative, r) := sign s
  (magnitude? r).map fun x => if negative then -x else x

end MapLayer.Decimal
