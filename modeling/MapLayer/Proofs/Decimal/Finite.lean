import Mathlib
import MapLayer.Proofs.Decimal.Equal

/-! The floats of integers. Main statement: an integer of 64 bits is read as a finite float. -/

namespace MapLayer.Decimal

open Float.Model Float.Model.UnpackedFloat

/-- Zero, or a finite number with an exponent that is not above a bound. -/
inductive Bounded (k : Int) : UnpackedFloat → Prop
  | zero (s : Sign) : Bounded k (.zero s)
  | finite (s : Sign) (m : Nat) {e : Int} (positive : 0 < m) (below : e ≤ k) :
    Bounded k (.finite s m e positive)

variable {u : UnpackedFloat} {k : Int}

theorem Bounded.mono {l : Int} (h : Bounded k u) (le : k ≤ l) : Bounded l u := by
  cases h with
  | zero s => exact .zero s
  | finite s m positive below => exact .finite s m positive (below.trans le)

theorem Bounded.isFinite (h : Bounded k u) : u.isFinite = true := by
  cases h <;> rfl

theorem Bounded.neg (h : Bounded k u) : Bounded k u.neg := by
  cases h with
  | zero s => exact .zero _
  | finite s m positive below => exact .finite _ m positive below

section rounding

theorem log2_le {m a : Nat} (h : m < 2 ^ a) : m.log2 ≤ a := by
  by_cases zero : m = 0
  · simp [zero]
  · exact ((Nat.log2_lt zero).2 h).le

theorem mantissa_shiftRight_le (em : ExtendedMantissa) (n : Nat) : (em >>> n).mantissa ≤ em.mantissa := by
  induction n with
  | zero => exact Nat.le_refl _
  | succ n ih =>
    have half : (em >>> (n + 1)).mantissa = (em >>> n).mantissa / 2 := rfl
    omega

theorem roundedMantissa_le (em : ExtendedMantissa) : em.roundedMantissa ≤ em.mantissa + 1 := by
  obtain ⟨m, r, s⟩ := em
  cases r <;> cases s <;>
    simp only [ExtendedMantissa.roundedMantissa, ExtendedMantissa.accuracy, Accuracy.roundToNearestEven] <;>
    omega

theorem shiftToTargetExponent_le (m : Nat) (e : Int) (a : Accuracy) :
    (shiftToTargetExponent Format.binary64 m e a).1.mantissa ≤ m ∧
      (shiftToTargetExponent Format.binary64 m e a).2 ≤ max e (max (m.log2 + e - 52) (-1074)) := by
  constructor
  · refine (mantissa_shiftRight_le _ _).trans ?_
    cases a with
    | exact => exact Nat.le_refl m
    | inexact o => cases o <;> exact Nat.le_refl m
  · simp only [shiftToTargetExponent, shiftToExponent, Format.targetExponent, totalExponent,
      Format.mantissaBits, Format.minExponent]
    omega

/-- Rounding raises the exponent by less than the significand is long. -/
theorem bounded_roundWithAccuracy {m : Nat} {e : Int} (significand : m < 2 ^ 120) (exponent : e ≤ k)
    (least : -1074 ≤ k) (s : Sign) (a : Accuracy) :
    Bounded (k + 200) (roundWithAccuracy Format.binary64 s m e a) := by
  obtain ⟨first, raised⟩ := shiftToTargetExponent_le m e a
  have rounded := roundedMantissa_le (shiftToTargetExponent Format.binary64 m e a).1
  obtain ⟨-, again⟩ := shiftToTargetExponent_le
    (shiftToTargetExponent Format.binary64 m e a).1.roundedMantissa
    (shiftToTargetExponent Format.binary64 m e a).2 .exact
  have long : m.log2 ≤ 120 := log2_le significand
  have longer : (shiftToTargetExponent Format.binary64 m e a).1.roundedMantissa.log2 ≤ 121 :=
    log2_le (by omega)
  rw [roundWithAccuracy]
  dsimp only
  split
  · exact .zero s
  · exact .finite s _ _ (by omega)

end rounding

theorem mantissa_lt {x : Float.Model} {s : Sign} {m : Nat} {e : Int} {positive : 0 < m}
    (h : x.unpack = .finite s m e positive) : m < 2 ^ 53 := by
  rw [Float.Model.unpack, UnpackedFloat.unpack] at h
  dsimp only at h
  split at h
  · split at h <;> cases h
  · split at h
    · split at h
      · cases h
      · cases h
        exact (BitVec.isLt _).trans (by decide)
    · cases h
      exact BitVec.isLt _

theorem bounded_unpack (s : Sign) {e : BitVec 11} (m : BitVec 52) (finite : e ≠ -1#11) :
    Bounded (max (e.toNat - 1075) (-1074))
      (UnpackedFloat.unpack Format.binary64 (packComponents Format.binary64 s e m)) := by
  rw [UnpackedFloat.unpack]
  simp only [unpackMantissa_packComponents, unpackExponent_packComponents]
  split
  · contradiction
  · split
    · rename_i zero
      split
      · exact .zero _
      · refine .finite _ _ _ ?_
        rw [zero]
        decide
    · refine .finite _ _ _ ?_
      have bias : ((Format.exponentBias Format.binary64 : Nat) : Int) = 1023 := rfl
      omega

/-- What is packed and unpacked again stays bounded. -/
theorem Bounded.unpack_pack (h : Bounded k u) (least : -1074 ≤ k) (most : k ≤ 900) :
    Bounded k (pack u).unpack := by
  cases h with
  | zero s => exact (bounded_unpack s 0 (by decide)).mono (by simpa using least)
  | @finite s m e positive below =>
    have fields : (pack (.finite s m e positive)).unpack =
        UnpackedFloat.unpack Format.binary64 (UnpackedFloat.pack Format.binary64 (.finite s m e positive)) := rfl
    have places : (e + (Format.exponentBias Format.binary64 : Nat) +
        (Format.binary64.mantissaBitsWithoutImplicit : Nat)).toNat = (e + 1075).toNat := by
      have bias : ((Format.exponentBias Format.binary64 : Nat) : Int) = 1023 := rfl
      have digits : ((Format.binary64.mantissaBitsWithoutImplicit : Nat) : Int) = 52 := rfl
      omega
    have width : 2 ^ Format.binary64.exponentBits = 2048 := rfl
    have biased : (BitVec.ofNat 11 (e + 1075).toNat).toNat = (e + 1075).toNat := by
      rw [BitVec.toNat_ofNat]
      omega
    rw [fields, UnpackedFloat.pack]
    dsimp only
    rw [places, width, if_neg (by omega)]
    split
    · refine (bounded_unpack s _ ?_).mono ?_
      · intro ones
        have high := congrArg BitVec.toNat ones
        rw [biased] at high
        have all : (-1#11).toNat = 2047 := rfl
        omega
      · omega
    · exact (bounded_unpack s _ (by decide)).mono (by simpa using least)

theorem bounded_mul {x y : Float.Model} (hx : Bounded k x.unpack) (hy : Bounded 0 y.unpack)
    (least : -1074 ≤ k) : Bounded (k + 200) (UnpackedFloat.mul Format.binary64 x.unpack y.unpack) := by
  cases hu : x.unpack with
  | notANumber => rw [hu] at hx; cases hx
  | infinity s => rw [hu] at hx; cases hx
  | zero s =>
    cases hv : y.unpack with
    | notANumber => rw [hv] at hy; cases hy
    | infinity t => rw [hv] at hy; cases hy
    | zero t => exact .zero _
    | finite t n f q => exact .zero _
  | finite s m e p =>
    cases hv : y.unpack with
    | notANumber => rw [hv] at hy; cases hy
    | infinity t => rw [hv] at hy; cases hy
    | zero t => exact .zero _
    | finite t n f q =>
      rw [hu] at hx
      rw [hv] at hy
      obtain ⟨⟩ := hx
      obtain ⟨⟩ := hy
      have product : m * n < 2 ^ 53 * 2 ^ 53 :=
        Nat.mul_lt_mul'' (mantissa_lt hu) (mantissa_lt hv)
      exact bounded_roundWithAccuracy (by omega) (by omega) least _ _

theorem shiftLeft_lt {n i : Nat} (bits : n < 2 ^ 64) (few : i ≤ 53) : n <<< i < 2 ^ 120 := by
  rw [Nat.shiftLeft_eq]
  calc n * 2 ^ i ≤ n * 2 ^ 53 := Nat.mul_le_mul_left _ (Nat.pow_le_pow_right (by decide) few)
    _ < 2 ^ 120 := by omega

theorem bounded_natural {n : Nat} (bits : n < 2 ^ 64) : Bounded 200 (UnpackedFloat.ofNat Format.binary64 n) := by
  rw [UnpackedFloat.ofNat, UnpackedFloat.ofInt]
  unfold UnpackedFloat.normalize
  split
  · rename_i less
    have := Int.compare_eq_lt.1 less
    omega
  · exact .zero _
  · rw [UnpackedFloat.round]
    dsimp only [decreaseExponent]
    have scaled : n <<< (0 - Format.binary64.targetExponent (totalExponent n 0)).toNat < 2 ^ 120 := by
      refine shiftLeft_lt bits ?_
      simp only [Format.targetExponent, totalExponent, Format.mantissaBits, Format.minExponent]
      omega
    exact bounded_roundWithAccuracy (k := 0) scaled (by omega) (by omega) _ _

theorem bounded_ofNat {n : Nat} (bits : n < 2 ^ 64) : Bounded 900 (Float.ofNat n).toModel.unpack := by
  show Bounded 900 (Float.ofScientific n false 0).toModel.unpack
  rw [Float.ofScientific]
  split
  · have inside : 0 < Float.exactlyRepresentablePowersOfTen.size := by decide
    have one : Bounded 0 Float.exactlyRepresentablePowersOfTen[0].toModel.unpack := by
      have first : Float.exactlyRepresentablePowersOfTen[0] = Float.ofBits 0x3FF0000000000000 := by
        simp [Float.exactlyRepresentablePowersOfTen]
      have unpacked : (Float.ofBits 0x3FF0000000000000).toModel.unpack =
          .finite .positive (2 ^ 52) (-52) (by decide) := rfl
      rw [first, unpacked]
      exact .finite _ _ _ (by decide)
    have factor : Bounded 200 (UInt64.toFloat n.toUInt64).toModel.unpack :=
      (bounded_natural (Nat.mod_lt _ (by decide))).unpack_pack (by omega) (by omega)
    exact ((bounded_mul factor one (by omega)).unpack_pack (by omega) (by omega)).mono (by omega)
  · have whole : Bounded 200 (UnpackedFloat.ofScientific Format.binary64 n 0) := by
      have range : (2 : Int) ^ Format.binary64.exponentBits = 2048 := rfl
      have digits : Format.binary64.mantissaBits = 53 := rfl
      unfold UnpackedFloat.ofScientific
      split
      · exact .zero _
      · rw [range, if_neg (by omega), if_neg (by omega), if_pos (by omega)]
        have scaled : n <<< Format.binary64.mantissaBits * 10 ^ (0 : Int).toNat < 2 ^ 120 := by
          rw [digits]
          simpa using shiftLeft_lt bits (Nat.le_refl 53)
        have exponent : -(Format.binary64.mantissaBits : Int) + 0 ≤ 0 := by omega
        rw [UnpackedFloat.mul]
        exact bounded_roundWithAccuracy scaled exponent (by omega) _ _
    exact (whole.unpack_pack (by omega) (by omega)).mono (by omega)

theorem isFinite_ofInt {n : Int} (bits : n.natAbs < 2 ^ 64) : (Float.ofInt n).isFinite = true := by
  cases n with
  | ofNat n => exact (bounded_ofNat bits).isFinite
  | negSucc n =>
    have negated := (bounded_ofNat (n := n.succ) bits).neg
    exact (negated.unpack_pack (by omega) (by omega)).isFinite

end MapLayer.Decimal
