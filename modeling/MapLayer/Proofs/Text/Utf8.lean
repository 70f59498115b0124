import Mathlib
import MapLayer.Text.Utf8

/-! Reading the bytes that a text was written as. Main statement: they are that text again. -/

namespace MapLayer.Text.Utf8

theorem decodeFrom_last {low high bits b : Nat} (range : low ≤ b ∧ b ≤ high) (bs : List Nat) :
    decodeFrom (.pending 1 low high bits) (b :: bs)
      = Char.ofNat (bits * 64 + (b - 0x80)) :: decodeFrom .start bs := by
  simp [decodeFrom, step, range]

theorem decodeFrom_more {toCome low high bits b : Nat} (range : low ≤ b ∧ b ≤ high)
    (bs : List Nat) : decodeFrom (.pending (toCome + 2) low high bits) (b :: bs)
      = decodeFrom (.pending (toCome + 1) 0x80 0xBF (bits * 64 + (b - 0x80))) bs := by
  simp [decodeFrom, step, range]

theorem decodeFrom_lead {b toCome low high bits : Nat} (wide : 0x80 ≤ b)
    (lead : lead? b = some (toCome, low, high, bits)) (bs : List Nat) :
    decodeFrom .start (b :: bs) = decodeFrom (.pending toCome low high bits) bs := by
  simp [decodeFrom, step, first, lead, Nat.not_lt.2 wide]

/-- The ranges of second bytes hold those of all characters of three bytes. Surrogates are none. -/
theorem lead?_three {n : Nat} (wide : 0x800 ≤ n) (valid : n < 0xD800 ∨ 0xDFFF < n)
    (bound : n < 0x10000) : ∃ low high, lead? (0xE0 + n / 4096) = some (2, low, high, n / 4096) ∧
      low ≤ 0x80 + n / 64 % 64 ∧ 0x80 + n / 64 % 64 ≤ high := by
  unfold lead?
  rw [if_neg (by omega)]
  split
  · exact ⟨0xA0, 0xBF, by simp; omega, by omega, by omega⟩
  · split
    · exact ⟨0x80, 0x9F, by simp; omega, by omega, by omega⟩
    · rw [if_pos (by omega)]
      exact ⟨0x80, 0xBF, by simp, by omega, by omega⟩

theorem lead?_four {n : Nat} (wide : 0x10000 ≤ n) (bound : n < 0x110000) :
    ∃ low high, lead? (0xF0 + n / 262144) = some (3, low, high, n / 262144) ∧
      low ≤ 0x80 + n / 4096 % 64 ∧ 0x80 + n / 4096 % 64 ≤ high := by
  unfold lead?
  rw [if_neg (by omega), if_neg (by omega), if_neg (by omega), if_neg (by omega)]
  split
  · exact ⟨0x90, 0xBF, by simp; omega, by omega, by omega⟩
  · split
    · exact ⟨0x80, 0xBF, by simp, by omega, by omega⟩
    · rw [if_pos (by omega)]
      exact ⟨0x80, 0x8F, by simp; omega, by omega, by omega⟩

theorem decodeFrom_encodeChar (c : Char) (bs : List Nat) :
    decodeFrom .start (encodeChar c ++ bs) = c :: decodeFrom .start bs := by
  have valid : c.toNat < 0xD800 ∨ 0xDFFF < c.toNat ∧ c.toNat < 0x110000 := c.valid
  have back {m : Nat} (h : m = c.toNat) : Char.ofNat m = c := by rw [h, Char.ofNat_toNat]
  unfold encodeChar
  dsimp only
  split
  · rename_i ascii
    simp [decodeFrom, step, first, ascii]
  · split
    · have lead : lead? (0xC0 + c.toNat / 64) = some (1, 0x80, 0xBF, c.toNat / 64) := by
        unfold lead?
        rw [if_pos (by omega)]
        simp
      rw [List.cons_append, decodeFrom_lead (by omega) lead, List.cons_append,
        decodeFrom_last (by omega), back (by omega), List.nil_append]
    · split
      · obtain ⟨low, high, lead, lower, upper⟩ := lead?_three (by omega : 0x800 ≤ c.toNat)
          (by omega) (by omega)
        rw [List.cons_append, decodeFrom_lead (by omega) lead, List.cons_append,
          decodeFrom_more ⟨lower, upper⟩, List.cons_append, decodeFrom_last (by omega),
          back (by omega), List.nil_append]
      · obtain ⟨low, high, lead, lower, upper⟩ := lead?_four (by omega : 0x10000 ≤ c.toNat)
          (by omega)
        rw [List.cons_append, decodeFrom_lead (by omega) lead, List.cons_append,
          decodeFrom_more ⟨lower, upper⟩, List.cons_append, decodeFrom_more (by omega),
          List.cons_append, decodeFrom_last (by omega), back (by omega), List.nil_append]

theorem decode_encode (s : List Char) : decode (encode s) = s := by
  unfold decode encode
  induction s with
  | nil => rfl
  | cons c s ih => rw [List.flatMap_cons, decodeFrom_encodeChar, ih]

theorem encodeChar_lt {c : Char} {b : Nat} (h : b ∈ encodeChar c) : b < 256 := by
  have valid : c.toNat < 0xD800 ∨ 0xDFFF < c.toNat ∧ c.toNat < 0x110000 := c.valid
  unfold encodeChar at h
  dsimp only at h
  split at h
  · simp at h
    omega
  · split at h
    · simp at h
      omega
    · split at h
      · simp at h
        omega
      · simp at h
        omega

end MapLayer.Text.Utf8
