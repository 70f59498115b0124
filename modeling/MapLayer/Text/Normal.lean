import MapLayer.Text.Combining

/-!
The normal form of a text: letters with marks are one character where there is one, and the marks
that remain stand in the order of their classes.
-/

namespace MapLayer.Text.Normal

/-- The two parts of a Korean syllable: its consonant and vowel, or those together and its end. -/
def syllableParts? (n : Nat) : Option (Nat × Nat) :=
  if n < 0xAC00 || 0xD7A3 < n then none
  else
    let i := n - 0xAC00
    if i % 28 = 0 then some (0x1100 + i / 588, 0x1161 + i % 588 / 28)
    else some (n - i % 28, 0x11A7 + i % 28)

def syllable? (a b : Nat) : Option Nat :=
  if 0x1100 ≤ a ∧ a ≤ 0x1112 ∧ 0x1161 ≤ b ∧ b ≤ 0x1175 then
    some (0xAC00 + (a - 0x1100) * 588 + (b - 0x1161) * 28)
  else if 0xAC00 ≤ a ∧ a ≤ 0xD7A3 ∧ (a - 0xAC00) % 28 = 0 ∧ 0x11A8 ≤ b ∧ b ≤ 0x11C2 then
    some (a + (b - 0x11A7))
  else none

def parts? (c : Char) : Option (Char × Char) :=
  let n := c.toNat
  match syllableParts? n with
  | some (a, b) => some (Char.ofNat a, Char.ofNat b)
  | none => match Table.find? compositionTable n with
    | some [a, b] => some (Char.ofNat a, Char.ofNat b)
    | _ => none

/-- The two-character texts of a row that are `wanted`, by the character that stands for them. -/
def composedIn? (wanted : List Nat) (r : Table.Row) : Option Nat :=
  (r.texts.findIdx? (· == wanted)).map (r.first + ·)

def composed? (a b : Char) : Option Char :=
  ((syllable? a.toNat b.toNat).or
    (compositionTable.findSome? (composedIn? [a.toNat, b.toNat]))).map Char.ofNat

/-- A character taken apart up to `fuel` times. -/
def apart : (fuel : Nat) → Char → List Char
  | 0, c => [c]
  | fuel + 1, c =>
    if c.toNat < 0x80 then [c]
    else match parts? c with
      | some (a, b) => apart fuel a ++ [b]
      | none => [c]

/-- The number of marks that a letter may take with it in one character. -/
def maxMarks : Nat := 3

/-- Puts a mark behind the marks at the front whose class is lower. -/
def insertMark (c : Char) : List Char → List Char
  | [] => [c]
  | d :: s =>
    if combiningClass d ≠ 0 ∧ combiningClass d < combiningClass c then d :: insertMark c s
    else c :: d :: s

/-- The marks after each letter in the order of their classes. -/
def ordered : List Char → List Char
  | [] => []
  | c :: s => if combiningClass c = 0 then c :: ordered s else insertMark c (ordered s)

/-- Joins a letter with what follows it, where a character stands for both. The marks between them
are those that stay behind the letter; a mark is joined only if theirs are of lower classes. -/
def joined (letter : Char) (marks : List Char) : List Char → List Char
  | [] => letter :: marks
  | c :: s =>
    let isBlocked := marks.getLast?.any fun m => combiningClass c ≤ combiningClass m
    match if isBlocked then none else composed? letter c with
    | some both => joined both marks s
    | none =>
      if combiningClass c = 0 then letter :: marks ++ joined c [] s
      else joined letter (marks ++ [c]) s

end MapLayer.Text.Normal

namespace MapLayer.Text

def normal (s : List Char) : List Char :=
  if s.all fun c => c.toNat < 0x300 then s
  else
    let t := Normal.ordered (s.flatMap (Normal.apart Normal.maxMarks))
    let isMarked (c : Char) : Bool := combiningClass c != 0
    match t.dropWhile isMarked with
    | [] => t
    | c :: rest => t.takeWhile isMarked ++ Normal.joined c [] rest

end MapLayer.Text
