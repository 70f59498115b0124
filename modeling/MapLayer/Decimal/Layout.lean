import MapLayer.Decimal.Shortest

/-! Writing numbers: the shortest digits in two layouts, and a fixed number of places. -/

namespace MapLayer.Decimal

/-- How the shortest digits of a number are laid out. -/
structure Layout where
  tie : Tie
  /-- Whether a number is written without exponent, by the decimal exponent of its first digit. -/
  positional : Int → Bool
  whole : List Char

/-- No exponent, and whole numbers without a point. -/
def Layout.plain : Layout := ⟨.up, fun _ => true, []⟩

/-- An exponent below `1e-5` and from `1e16` on, and a point in every number without one. -/
def Layout.json : Layout := ⟨.toEven, fun e => -5 ≤ e && e < 16, ['.', '0']⟩

def digitsOf (n : Nat) : List Char :=
  Nat.toDigits 10 n

def integer (n : Int) : List Char :=
  if n < 0 then '-' :: digitsOf n.natAbs else digitsOf n.natAbs

/-- The digits with the point where the exponent puts it. -/
def withPoint (whole : List Char) (ds : List Char) (exponent : Int) : List Char :=
  if 0 ≤ exponent then ds ++ List.replicate exponent.toNat '0' ++ whole
  else
    let places := (-exponent).toNat
    if places < ds.length then
      ds.take (ds.length - places) ++ '.' :: ds.drop (ds.length - places)
    else '0' :: '.' :: (List.replicate (places - ds.length) '0' ++ ds)

/-- The digits with a point after the first, and the decimal exponent of the first with its sign. -/
def scientific (ds : List Char) (exponent : Int) : List Char :=
  let mantissa := match ds with
    | d :: e :: rest => d :: '.' :: e :: rest
    | short => short
  mantissa ++ 'e' :: (if exponent < 0 then '-' else '+') :: digitsOf exponent.natAbs

def Layout.magnitude (layout : Layout) (x : Binary) : List Char :=
  let d := x.shortest layout.tie
  let ds := digitsOf d.digits
  let first := d.exponent + ds.length - 1
  if layout.positional first then withPoint layout.whole ds d.exponent else scientific ds first

def isNegative (x : Float) : Bool :=
  Nat.pow 2 63 ≤ x.toBits.toNat

def Layout.text (layout : Layout) (x : Float) : List Char :=
  let sign := if isNegative x then ['-'] else []
  if x.isNaN then ['N', 'a', 'N']
  else if x.isInf then sign ++ ['i', 'n', 'f']
  else sign ++ layout.magnitude (.ofBits x.toBits)

def plain (x : Float) : List Char :=
  Layout.plain.text x

/-- The whole number nearest to `n / d`, the even one of two. -/
def nearest (n d : Nat) : Nat :=
  let q := n / d
  let twice := 2 * (n % d)
  if twice < d || twice == d && q % 2 == 0 then q else q + 1

/-- A finite number with a fixed number of places. Zero has no sign. -/
def fixed (places : Nat) (x : Float) : List Char :=
  let b := Binary.ofBits x.toBits
  let n := nearest (b.significand * Nat.pow 2 b.exponent.toNat * Nat.pow 10 places)
    (Nat.pow 2 (-b.exponent).toNat)
  let ds := digitsOf n
  let padded := List.replicate (places + 1 - ds.length) '0' ++ ds
  let sign := if isNegative x && n != 0 then ['-'] else []
  sign ++ withPoint [] padded (-places)

end MapLayer.Decimal
