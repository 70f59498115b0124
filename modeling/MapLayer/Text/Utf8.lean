/-! UTF-8. Bytes are numbers below 256. -/

namespace MapLayer.Text.Utf8

def encodeChar (c : Char) : List Nat :=
  let n := c.toNat
  if n < 0x80 then [n]
  else if n < 0x800 then [0xC0 + n / 64, 0x80 + n % 64]
  else if n < 0x10000 then [0xE0 + n / 4096, 0x80 + n / 64 % 64, 0x80 + n % 64]
  else [0xF0 + n / 262144, 0x80 + n / 4096 % 64, 0x80 + n / 64 % 64, 0x80 + n % 64]

def encode (s : List Char) : List Nat := s.flatMap encodeChar

/-- What stands for bytes that are no character. -/
def replacement : Char := Char.ofNat 0xFFFD

/-- How many bytes follow a first byte, the range of the first of them, and the bits that the first
byte gives. -/
def lead? (b : Nat) : Option (Nat × Nat × Nat × Nat) :=
  if 0xC2 ≤ b ∧ b ≤ 0xDF then some (1, 0x80, 0xBF, b - 0xC0)
  else if b = 0xE0 then some (2, 0xA0, 0xBF, 0)
  else if b = 0xED then some (2, 0x80, 0x9F, 0xD)
  else if 0xE1 ≤ b ∧ b ≤ 0xEF then some (2, 0x80, 0xBF, b - 0xE0)
  else if b = 0xF0 then some (3, 0x90, 0xBF, 0)
  else if 0xF1 ≤ b ∧ b ≤ 0xF3 then some (3, 0x80, 0xBF, b - 0xF0)
  else if b = 0xF4 then some (3, 0x80, 0x8F, 4)
  else none

/-- The state between two bytes: nothing open, or the number of bytes still to come, the range of
the next one and the bits so far. -/
inductive State
  | start
  | pending (toCome low high bits : Nat)

/-- A byte where a character may start: what it adds to the text, and the state after it. -/
def first (b : Nat) : List Char × State :=
  if b < 0x80 then ([Char.ofNat b], .start)
  else match lead? b with
    | some (toCome, low, high, bits) => ([], .pending toCome low high bits)
    | none => ([replacement], .start)

def step (b : Nat) : State → List Char × State
  | .start => first b
  | .pending toCome low high bits =>
    if low ≤ b ∧ b ≤ high then
      let value := bits * 64 + (b - 0x80)
      if toCome = 1 then ([Char.ofNat value], .start)
      else ([], .pending (toCome - 1) 0x80 0xBF value)
    else
      let (cs, state) := first b
      (replacement :: cs, state)

def decodeFrom : State → List Nat → List Char
  | .start, [] => []
  | .pending .., [] => [replacement]
  | state, b :: bs =>
    let (cs, next) := step b state
    cs ++ decodeFrom next bs

/-- The text of bytes. Each longest run of bytes that starts a character but does not end one is
replaced by one character. -/
def decode (bytes : List Nat) : List Char := decodeFrom .start bytes

end MapLayer.Text.Utf8
