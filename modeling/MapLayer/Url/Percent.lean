import MapLayer.Text.Utf8

/-! Percent encoding, in the parts of addresses and in forms. -/

namespace MapLayer.Url

open MapLayer.Text

def hexDigit (n : Nat) : Char := Char.ofNat (if n < 10 then 0x30 + n else 0x41 + (n - 10))

def encodeByte (b : Nat) : List Char := ['%', hexDigit (b / 16), hexDigit (b % 16)]

/-- The text with the bytes of some characters encoded. -/
def percentEncode (must : Char → Bool) (s : List Char) : List Char :=
  s.flatMap fun c => if must c then (Utf8.encodeChar c).flatMap encodeByte else [c]

/-- Control characters and everything beyond ASCII. -/
def isControl (c : Char) : Bool := c.toNat < 0x20 || 0x7E < c.toNat

def fragmentMust (c : Char) : Bool :=
  isControl c || [' ', '"', '<', '>', '\x60'].contains c

def queryMust (special : Bool) (c : Char) : Bool :=
  isControl c || [' ', '"', '#', '<', '>'].contains c || special && c == '\''

def pathMust (c : Char) : Bool :=
  fragmentMust c || ['#', '?', '\x7b', '\x7d'].contains c

def userMust (c : Char) : Bool :=
  pathMust c || ['/', ':', ';', '=', '@', '[', '\\', ']', '^', '|'].contains c

def hexValue? (c : Char) : Option Nat :=
  if '0' ≤ c ∧ c ≤ '9' then some (c.toNat - 0x30)
  else if 'a' ≤ c ∧ c ≤ 'f' then some (c.toNat - 0x61 + 10)
  else if 'A' ≤ c ∧ c ≤ 'F' then some (c.toNat - 0x41 + 10)
  else none

/-- The bytes of a text. A percent sign without two digits stands for itself. -/
def percentDecode : List Char → List Nat
  | '%' :: a :: b :: s =>
    match hexValue? a, hexValue? b with
    | some x, some y => (x * 16 + y) :: percentDecode s
    | _, _ => 0x25 :: percentDecode (a :: b :: s)
  | c :: s => Utf8.encodeChar c ++ percentDecode s
  | [] => []

end MapLayer.Url
