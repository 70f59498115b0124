import Mathlib
import MapLayer.TimeWindow

/-! Floats that compare as equal. Main statement: they stand for the same instant, though the bits of the
two zeros differ. -/

namespace MapLayer

namespace Decimal

open Float.Model Float.Model.UnpackedFloat

theorem mantissa_toNat (b : BitVec Format.binary64.numBits) :
    (@unpackMantissa Format.binary64 b).toNat = b.toNat % Nat.pow 2 52 := by
  simp [unpackMantissa]

theorem exponent_toNat (b : BitVec Format.binary64.numBits) :
    (@unpackExponent Format.binary64 b).toNat = b.toNat / Nat.pow 2 52 % Nat.pow 2 11 := by
  simp [unpackExponent, Nat.shiftRight_eq_div_pow]

theorem sign_toNat (b : BitVec Format.binary64.numBits) :
    (@unpackSign Format.binary64 b).toNat = b.toNat / Nat.pow 2 63 := by
  have bound : b.toNat < 18446744073709551616 := b.isLt
  simp [unpackSign, Nat.shiftRight_eq_div_pow]
  omega

section

variable {x : Float} {s : Sign} {m : Nat} {e : Int} {positive : 0 < m}

theorem unpack_eq (x : Float) : x.toModel.unpack =
    UnpackedFloat.unpack Format.binary64 x.toModel.toBits.toBitVec := rfl

theorem isNegative_iff (x : Float) : isNegative x = true ↔
    Sign.ofBitVec (@unpackSign Format.binary64 x.toModel.toBits.toBitVec) = .negative := by
  have bound : x.toBits.toNat < 18446744073709551616 := x.toBits.toBitVec.isLt
  have sign : (@unpackSign Format.binary64 x.toModel.toBits.toBitVec).toNat
      = x.toBits.toNat / 9223372036854775808 := sign_toNat _
  have high : isNegative x = true ↔ 9223372036854775808 ≤ x.toBits.toNat := decide_eq_true_iff
  rw [high]
  unfold Sign.ofBitVec
  split
  · rename_i zero
    rw [zero] at sign
    have : x.toBits.toNat / 9223372036854775808 = 0 := sign.symm
    refine ⟨fun h => by omega, nofun⟩
  · rename_i one
    refine ⟨fun _ => rfl, fun _ => Nat.le_of_not_lt fun low => one ?_⟩
    refine BitVec.eq_of_toNat_eq (sign.trans ?_)
    show _ = 0
    omega

theorem ofBits_subnormal {b : UInt64} (zero : b.toNat / Nat.pow 2 52 % Nat.pow 2 11 = 0) :
    Binary.ofBits b = ⟨b.toNat % Nat.pow 2 52, -1074, false⟩ := if_pos zero

theorem ofBits_normal {b : UInt64} (other : b.toNat / Nat.pow 2 52 % Nat.pow 2 11 ≠ 0) :
    (Binary.ofBits b).significand = Nat.pow 2 52 + b.toNat % Nat.pow 2 52 ∧
      (Binary.ofBits b).exponent = (b.toNat / Nat.pow 2 52 % Nat.pow 2 11 : Nat) - (1075 : Int) := by
  unfold Binary.ofBits
  dsimp only
  rw [if_neg other]
  exact ⟨rfl, rfl⟩

theorem exponentBits_eq_zero_iff (x : Float) :
    @unpackExponent Format.binary64 x.toModel.toBits.toBitVec = 0 ↔
      x.toBits.toNat / Nat.pow 2 52 % Nat.pow 2 11 = 0 := by
  have bits : (@unpackExponent Format.binary64 x.toModel.toBits.toBitVec).toNat
      = x.toBits.toNat / Nat.pow 2 52 % Nat.pow 2 11 := exponent_toNat _
  rw [← bits]
  exact ⟨fun h => congrArg BitVec.toNat h, fun h => BitVec.eq_of_toNat_eq h⟩

/-- A finite float other than zero has the significand, the exponent and the sign that its bits say. -/
theorem finite_of_unpack (h : x.toModel.unpack = .finite s m e positive) :
    (Binary.ofBits x.toBits).significand = m ∧ (Binary.ofBits x.toBits).exponent = e ∧
      (isNegative x = true ↔ s = .negative) := by
  have mantissa : (@unpackMantissa Format.binary64 x.toModel.toBits.toBitVec).toNat
      = x.toBits.toNat % Nat.pow 2 52 := mantissa_toNat _
  have exponent : (@unpackExponent Format.binary64 x.toModel.toBits.toBitVec).toNat
      = x.toBits.toNat / Nat.pow 2 52 % Nat.pow 2 11 := exponent_toNat _
  have subnormal := exponentBits_eq_zero_iff x
  rw [unpack_eq, UnpackedFloat.unpack] at h
  dsimp only at h
  rw [isNegative_iff]
  split at h
  · split at h <;> cases h
  · split at h
    · rename_i zero
      split at h
      · cases h
      · cases h
        rw [ofBits_subnormal (subnormal.1 zero)]
        refine ⟨mantissa.symm, ?_, Iff.rfl⟩
        rw [exponent, subnormal.1 zero]
        rfl
    · rename_i other
      cases h
      obtain ⟨significand, place⟩ := ofBits_normal fun e => other (subnormal.2 e)
      refine ⟨?_, ?_, Iff.rfl⟩
      · have bound : x.toBits.toNat % Nat.pow 2 52 < 2 ^ 52 := Nat.mod_lt _ (by decide)
        rw [significand, BitVec.toNat_append, mantissa]
        exact Nat.shiftLeft_add_eq_or_of_lt bound 1
      · rw [place, exponent]
        rfl

theorem zero_of_unpack (h : x.toModel.unpack = .zero s) :
    (Binary.ofBits x.toBits).significand = 0 := by
  have mantissa : (@unpackMantissa Format.binary64 x.toModel.toBits.toBitVec).toNat
      = x.toBits.toNat % Nat.pow 2 52 := mantissa_toNat _
  have subnormal := exponentBits_eq_zero_iff x
  rw [unpack_eq, UnpackedFloat.unpack] at h
  dsimp only at h
  split at h
  · split at h <;> cases h
  · split at h
    · rename_i zero
      split at h
      · rename_i none
        rw [ofBits_subnormal (subnormal.1 zero), ← mantissa, none]
        rfl
      · cases h
    · cases h

end

theorem eq_of_then_eq {e f : Int} {m n : Nat} (h : (compare e f).then (compare m n) = .eq) :
    e = f ∧ m = n := by
  obtain ⟨exponents, significands⟩ := Ordering.then_eq_eq.1 h
  exact ⟨Int.compare_eq_eq.1 exponents, Nat.compare_eq_eq.1 significands⟩

/-- Numbers that compare as equal are the same, or both are zero. -/
theorem eq_of_compare {p q : UnpackedFloat} (h : p.compare q = some .eq) :
    p = q ∨ ∃ s t, p = .zero s ∧ q = .zero t := by
  cases p with
  | notANumber => cases q <;> cases h
  | infinity s =>
    cases q with
    | infinity t => cases s <;> cases t <;> first | exact .inl rfl | cases h
    | _ => cases s <;> cases h
  | zero s =>
    cases q with
    | zero t => exact .inr ⟨s, t, rfl, rfl⟩
    | infinity t => cases t <;> cases h
    | finite t => cases t <;> cases h
    | notANumber => cases h
  | finite s m e =>
    cases q with
    | finite t n f =>
      left
      cases s <;> cases t
      · obtain ⟨rfl, rfl⟩ := eq_of_then_eq (Ordering.swap_eq_eq.1 (Option.some.inj h))
        rfl
      · cases h
      · cases h
      · obtain ⟨rfl, rfl⟩ := eq_of_then_eq (Option.some.inj h)
        rfl
    | infinity t => cases s <;> cases t <;> cases h
    | zero t => cases s <;> cases h
    | notANumber => cases h

end Decimal

namespace Timeslice

open Decimal

theorem wholeMillis_of_zero {x : Float} (zero : (Binary.ofBits x.toBits).significand = 0) :
    wholeMillis x = 0 := by
  unfold wholeMillis
  simp [zero]

/-- Floats that compare as equal are at the same instant. -/
theorem instant?_eq_of_beq {a b : Float} (same : (a == b) = true) : instant? a = instant? b := by
  have compared : a.toModel.unpack.compare b.toModel.unpack = some .eq := by
    exact beq_iff_eq.1 same
  have finite (x : Float) : x.isFinite = x.toModel.unpack.isFinite := rfl
  unfold instant?
  rw [finite, finite]
  obtain alike | ⟨s, t, ha, hb⟩ := eq_of_compare compared
  · rw [← alike]
    cases ha : a.toModel.unpack with
    | notANumber => rfl
    | infinity s => rfl
    | zero s =>
      have hb : b.toModel.unpack = .zero s := alike.symm.trans ha
      rw [wholeMillis_of_zero (zero_of_unpack ha), wholeMillis_of_zero (zero_of_unpack hb)]
    | finite s m e positive =>
      have hb : b.toModel.unpack = .finite s m e positive := alike.symm.trans ha
      obtain ⟨ma, ea, sa⟩ := finite_of_unpack ha
      obtain ⟨mb, eb, sb⟩ := finite_of_unpack hb
      have sign : isNegative a = isNegative b := Bool.eq_iff_iff.2 (sa.trans sb.symm)
      have whole : wholeMillis a = wholeMillis b := by
        unfold wholeMillis
        dsimp only
        rw [ma, mb, ea, eb, sign]
      rw [whole]
  · rw [ha, hb, wholeMillis_of_zero (zero_of_unpack ha), wholeMillis_of_zero (zero_of_unpack hb)]
    rfl

end Timeslice

end MapLayer
