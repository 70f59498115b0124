import MapLayer.Text.Blank
import MapLayer.Text.Reader
import MapLayer.Text.Split

/-!
The small parts of JSON texts: spacing, words and quoted texts. A quoted text writes surrogates in
pairs only.
-/

namespace MapLayer.Json

open MapLayer.Text

def skip (s : List Char) : List Char := s.dropWhile isSpacing

theorem length_skip_le (s : List Char) : (skip s).length ≤ s.length :=
  length_dropWhile_le _ s

theorem length_after? {front s r : List Char} (h : after? front s = some r) :
    s.length = front.length + r.length := by
  simp [after?_eq_some_iff.1 h]

theorem shorter_after? {c : Char} {word s r : List Char} (h : after? (c :: word) s = some r) :
    r.length < s.length := by
  have := length_after? h
  rw [List.length_cons] at this
  omega

/-- One of the three words of JSON, which starts with `c`. -/
def wordReader {α : Type} (c : Char) (word : List Char) (v : α) : Reader α := fun s =>
  match h : after? (c :: word) s with
  | none => none
  | some r => some ⟨v, r, shorter_after? h⟩

def hexValue? (c : Char) : Option Nat :=
  if c.isDigit then some (c.toNat - '0'.toNat)
  else if 'a' ≤ c ∧ c ≤ 'f' then some (c.toNat - 'a'.toNat + 10)
  else if 'A' ≤ c ∧ c ≤ 'F' then some (c.toNat - 'A'.toNat + 10)
  else none

def unit? (a b c d : Char) : Option Nat := do
  return ((← hexValue? a) * 16 + (← hexValue? b)) * 256 + (← hexValue? c) * 16 + (← hexValue? d)

/-- The character that a letter after a backslash stands for. -/
def escaped? : Char → Option Char
  | '"' => some '"'
  | '\\' => some '\\'
  | '/' => some '/'
  | 'b' => some '\x08'
  | 'f' => some '\x0c'
  | 'n' => some '\n'
  | 'r' => some '\r'
  | 't' => some '\t'
  | _ => none

/-- The character of one `\\u` escape, or of the two that write a surrogate pair, from the
first escape's digits on. -/
def unicodeChar? : List Char → Option (Char × List Char)
  | a :: b :: c :: d :: r =>
    (unit? a b c d).bind fun n =>
      if 0xD800 ≤ n ∧ n < 0xDC00 then
        match r with
        | '\\' :: 'u' :: a :: b :: c :: d :: r =>
          (unit? a b c d).bind fun m =>
            if 0xDC00 ≤ m ∧ m < 0xE000 then
              some (Char.ofNat (0x10000 + (n - 0xD800) * 0x400 + (m - 0xDC00)), r)
            else none
        | _ => none
      else if 0xDC00 ≤ n ∧ n < 0xE000 then none
      else some (Char.ofNat n, r)
  | _ => none

def quotedChar? : List Char → Option (Char × List Char)
  | '\\' :: 'u' :: r => unicodeChar? r
  | '\\' :: c :: r => (escaped? c).map (·, r)
  | c :: r => if c.toNat < 0x20 || c == '\\' || c == '"' then none else some (c, r)
  | [] => none

theorem length_unicodeChar? {s r : List Char} {c : Char} (h : unicodeChar? s = some (c, r)) :
    r.length < s.length := by
  unfold unicodeChar? at h
  split at h
  · obtain ⟨n, -, h⟩ := Option.bind_eq_some_iff.1 h
    split at h
    · split at h
      · obtain ⟨m, -, h⟩ := Option.bind_eq_some_iff.1 h
        split at h
        · obtain ⟨-, rfl⟩ := Prod.mk.inj (Option.some.inj h)
          simp only [List.length_cons]
          omega
        · contradiction
      · contradiction
    · split at h
      · contradiction
      · obtain ⟨-, rfl⟩ := Prod.mk.inj (Option.some.inj h)
        simp only [List.length_cons]
        omega
  · contradiction

theorem length_quotedChar? {s r : List Char} {c : Char} (h : quotedChar? s = some (c, r)) :
    r.length < s.length := by
  unfold quotedChar? at h
  split at h
  · have := length_unicodeChar? h
    simp only [List.length_cons]
    omega
  · obtain ⟨_, -, eq⟩ := Option.map_eq_some_iff.1 h
    obtain ⟨-, rfl⟩ := Prod.mk.inj eq
    simp only [List.length_cons]
    omega
  · split at h
    · contradiction
    · obtain ⟨-, rfl⟩ := Prod.mk.inj (Option.some.inj h)
      simp
  · contradiction

def readQuoted? (s : List Char) : Option (List Char × List Char) :=
  if s.head? = some '"' then some ([], s.tail)
  else match _h : quotedChar? s with
    | none => none
    | some (c, r) => (readQuoted? r).map fun (cs, rest) => (c :: cs, rest)
termination_by s.length
decreasing_by exact length_quotedChar? _h

theorem length_readQuoted? {s cs r : List Char} (h : readQuoted? s = some (cs, r)) :
    r.length < s.length := by
  fun_induction readQuoted? s generalizing cs r with
  | case1 s quote =>
    obtain ⟨-, rfl⟩ := Prod.mk.inj (Option.some.inj h)
    cases s with
    | nil => simp at quote
    | cons => simp
  | case2 => contradiction
  | case3 s _ c t ht ih =>
    obtain ⟨⟨_, _⟩, hr, eq⟩ := Option.map_eq_some_iff.1 h
    obtain ⟨-, rfl⟩ := Prod.mk.inj eq
    exact Nat.lt_trans (ih hr) (length_quotedChar? ht)

/-- A quoted text after its opening quote. -/
def quotedReader : Reader String := fun s =>
  match h : readQuoted? s with
  | none => none
  | some (cs, r) => some ⟨String.ofList cs, r, length_readQuoted? h⟩

end MapLayer.Json
