import MapLayer.Text.Blank
import MapLayer.Text.Split

/-!
Tables of characters. A table is written as words with white space between them, and characters as
their numbers in hexadecimal, with capital letters.
-/

namespace MapLayer.Text.Table

def number (ds : List Char) : Nat :=
  ds.foldl (fun n c => n * 16 + (if c.isDigit then c.toNat - 0x30 else c.toNat - 0x37)) 0

def words (text : String) : List (List Char) :=
  (pieces ' ' (text.toList.map fun c => if isSpacing c then ' ' else c)).filter (· ≠ [])

/-- Ranges. Each word is a character, or the first and the last one with a dash between them. -/
def ranges (text : String) : List (Nat × Nat) :=
  (words text).map fun word => match cut? ['-'] word with
    | some (first, last) => (number first, number last)
    | none => (number word, number word)

/-- A character and those after it, and the characters that each of them stands for. -/
structure Row where
  first : Nat
  texts : List (List Nat)

/-- Rows. Each word is a character, an equals sign, and texts with commas between them; a text is
its characters with points between them. -/
def rows (text : String) : List Row :=
  (words text).filterMap fun word => (cut? ['='] word).map fun (first, texts) =>
    ⟨number first, (pieces ',' texts).map fun t => (pieces '.' t).map number⟩

def find? (rows : List Row) (n : Nat) : Option (List Nat) :=
  rows.findSome? fun r => if r.first ≤ n then r.texts[n - r.first]? else none

end MapLayer.Text.Table
