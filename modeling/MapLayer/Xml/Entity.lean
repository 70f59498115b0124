import MapLayer.Text.Split

/-! Entities: character references and the five names that XML knows. -/

namespace MapLayer.Xml

open MapLayer.Text

def hexNumber? (ds : List Char) : Option Nat :=
  ds.foldlM (fun n c =>
    if '0' ≤ c ∧ c ≤ '9' then some (n * 16 + (c.toNat - 0x30))
    else if 'a' ≤ c ∧ c ≤ 'f' then some (n * 16 + (c.toNat - 0x61 + 10))
    else if 'A' ≤ c ∧ c ≤ 'F' then some (n * 16 + (c.toNat - 0x41 + 10))
    else none) 0

def decimalNumber? (ds : List Char) : Option Nat :=
  ds.foldlM (fun n c => if c.isDigit then some (n * 10 + (c.toNat - 0x30)) else none) 0

/-- The code point of a character reference: up to seven decimal digits, or the letter x and up to
six hexadecimal ones. -/
def codePoint? : List Char → Option Nat
  | 'x' :: ds => if ds.length ≤ 6 then hexNumber? ds else none
  | ds => if ds.length ≤ 7 then decimalNumber? ds else none

def character? (n : Nat) : Option Char :=
  if n ≠ 0 ∧ n.isValidChar then some (Char.ofNat n) else none

def entity? : List Char → Option Char
  | '#' :: digits => (codePoint? digits).bind character?
  | ['l', 't'] => some '<'
  | ['g', 't'] => some '>'
  | ['a', 'm', 'p'] => some '&'
  | ['a', 'p', 'o', 's'] => some '\''
  | ['q', 'u', 'o', 't'] => some '"'
  | _ => none

/-- The text with its entities resolved. Every ampersand has to start one. -/
def unescape? (s : List Char) : Option (List Char) :=
  match s with
  | [] => some []
  | '&' :: r => match _h : cut? [';'] r with
    | none => none
    | some (name, rest) =>
      if name.contains '&' then none
      else (entity? name).bind fun c => (unescape? rest).map (c :: ·)
  | c :: r => (unescape? r).map (c :: ·)
termination_by s.length
decreasing_by
  · have := length_of_cut? _h
    simp only [List.length_cons, List.length_nil] at *
    omega
  · simp

end MapLayer.Xml
