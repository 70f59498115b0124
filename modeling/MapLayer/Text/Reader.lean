/-! Reading a value off the front of a text. Every reader takes at least one character, so that
repeating it ends. -/

namespace MapLayer.Text

/-- What a reader finds at the front of `s`, and the shorter text after it. -/
structure Taken (α : Type) (s : List Char) where
  value : α
  rest : List Char
  shorter : rest.length < s.length

/-- Reads a value at the front of a text, or refuses. -/
abbrev Reader (α : Type) := (s : List Char) → Option (Taken α s)

theorem shorter_tail (s : List Char) : s.length < s.length + 1 := Nat.lt_succ_self _

namespace Taken

variable {α β : Type} {s t : List Char}

/-- The same find with another value. -/
def as (x : Taken α s) (b : β) : Taken β s := ⟨b, x.rest, x.shorter⟩

/-- The same find in a text that goes further back. -/
def from' (x : Taken α t) (h : t.length ≤ s.length) : Taken α s :=
  ⟨x.value, x.rest, Nat.lt_of_lt_of_le x.shorter h⟩

def leaving (x : Taken α s) (r : List Char) (h : r.length ≤ x.rest.length) : Taken α s :=
  ⟨x.value, r, Nat.lt_of_le_of_lt h x.shorter⟩

end Taken

theorem length_dropWhile_le (p : Char → Bool) (s : List Char) :
    (s.dropWhile p).length ≤ s.length :=
  (List.dropWhile_sublist p).length_le

end MapLayer.Text
