import Mathlib
import MapLayer.Decimal.Layout
import MapLayer.Proofs.Decimal.Equal
import MapLayer.Proofs.Decimal.Interval
import MapLayer.Proofs.Text.Pieces

/-! The texts of numbers. Main statement: different numbers have different texts. -/

namespace MapLayer.Decimal

open MapLayer.Text

/-- The number that digits with a point stand for. -/
def textValue (s : List Char) : ℚ :=
  match cut? ['.'] s with
  | some (whole, places) => Nat.ofDigitChars 10 (whole ++ places) 0 / 10 ^ places.length
  | none => Nat.ofDigitChars 10 s 0

theorem not_mem_digitsOf {c : Char} (other : c.isDigit = false) (n : ℕ) : c ∉ digitsOf n := by
  intro member
  rw [Nat.isDigit_of_mem_toDigits (by decide) (by decide) member] at other
  cases other

theorem ofDigitChars_digitsOf (n : ℕ) : Nat.ofDigitChars 10 (digitsOf n) 0 = n :=
  Nat.ofDigitChars_ten_toDigits

theorem textValue_withPoint (n : ℕ) (e : ℤ) :
    textValue (withPoint [] (digitsOf n) e) = n * 10 ^ e := by
  have digits : '.' ∉ digitsOf n := not_mem_digitsOf (by decide) n
  unfold withPoint
  split
  · -- zeros behind the digits, and no point
    rename_i whole
    have unpointed : '.' ∉ digitsOf n ++ List.replicate e.toNat '0' ++ [] := by
      simp [digits]
    have power : (10 : ℚ) ^ e = 10 ^ e.toNat := by
      rw [← zpow_natCast, Int.toNat_of_nonneg whole]
    rw [textValue, cut?_of_not_mem unpointed, List.append_nil, Nat.ofDigitChars_append,
      ofDigitChars_digitsOf, Nat.ofDigitChars_replicate_zero, power]
    push_cast
    ring
  · rename_i below
    obtain ⟨k, rfl⟩ : ∃ k : ℕ, e = -(k : ℤ) := ⟨(-e).toNat, by omega⟩
    have places : (- -(k : ℤ)).toNat = k := by omega
    have power : (n * 10 ^ (-(k : ℤ)) : ℚ) = n / 10 ^ k := by
      rw [zpow_neg, zpow_natCast, div_eq_mul_inv]
    dsimp only
    rw [places, power]
    split
    · -- the point between two digits
      rename_i inside
      have front : '.' ∉ (digitsOf n).take ((digitsOf n).length - k) :=
        fun member => digits (List.mem_of_mem_take member)
      have length : ((digitsOf n).drop ((digitsOf n).length - k)).length = k := by
        rw [List.length_drop]
        omega
      rw [textValue, cut?_append front]
      dsimp only
      rw [List.take_append_drop, ofDigitChars_digitsOf, length]
    · -- zeros before the digits, one of them before the point
      rename_i outside
      generalize filled : List.replicate (k - (digitsOf n).length) '0' = zeros
      have front : '.' ∉ ['0'] := by decide
      have pointed : cut? ['.'] ('0' :: '.' :: (zeros ++ digitsOf n))
          = some (['0'], zeros ++ digitsOf n) := cut?_append front _
      have value : Nat.ofDigitChars 10 (['0'] ++ (zeros ++ digitsOf n)) 0 = n := by
        rw [← List.append_assoc, Nat.ofDigitChars_append, ← filled, List.singleton_append,
          ← List.replicate_succ, Nat.ofDigitChars_replicate_zero, Nat.mul_zero,
          ofDigitChars_digitsOf]
      have length : (zeros ++ digitsOf n).length = k := by
        rw [List.length_append, ← filled, List.length_replicate]
        omega
      rw [textValue, pointed]
      dsimp only
      rw [value, length]

theorem textValue_magnitude (x : Binary) :
    textValue (Layout.plain.magnitude x) = (x.shortest .up).value :=
  textValue_withPoint _ _

theorem not_mem_magnitude {c : Char} (other : c.isDigit = false) (point : c ≠ '.') (x : Binary) :
    c ∉ Layout.plain.magnitude x := by
  have digits := not_mem_digitsOf other (x.shortest .up).digits
  have zero : c ≠ '0' := by
    rintro rfl
    cases other
  show c ∉ withPoint [] (digitsOf (x.shortest .up).digits) (x.shortest .up).exponent
  unfold withPoint
  dsimp only
  split
  · simp [digits, zero]
  · split
    · simp only [List.mem_append, List.mem_cons, not_or]
      exact ⟨fun h => digits (List.mem_of_mem_take h), point,
        fun h => digits (List.mem_of_mem_drop h)⟩
    · simp [digits, zero, point]

theorem eq_of_fields {a b : UInt64} (sign : Nat.pow 2 63 ≤ a.toNat ↔ Nat.pow 2 63 ≤ b.toNat)
    (significand : (Binary.ofBits a).significand = (Binary.ofBits b).significand)
    (exponent : (Binary.ofBits a).exponent = (Binary.ofBits b).exponent) : a = b := by
  have ba : a.toNat < 2 ^ 64 := a.toNat_lt
  have bb : b.toNat < 2 ^ 64 := b.toNat_lt
  have fa : a.toNat % Nat.pow 2 52 < Nat.pow 2 52 := Nat.mod_lt _ (by decide)
  have fb : b.toNat % Nat.pow 2 52 < Nat.pow 2 52 := Nat.mod_lt _ (by decide)
  have powers : Nat.pow 2 63 = 2 ^ 63 ∧ Nat.pow 2 52 = 2 ^ 52 ∧ Nat.pow 2 11 = 2 ^ 11 :=
    ⟨rfl, rfl, rfl⟩
  obtain ⟨p, q, r⟩ := powers
  refine UInt64.toNat_inj.1 ?_
  by_cases za : a.toNat / Nat.pow 2 52 % Nat.pow 2 11 = 0
  · by_cases zb : b.toNat / Nat.pow 2 52 % Nat.pow 2 11 = 0
    · rw [ofBits_subnormal za, ofBits_subnormal zb] at significand
      dsimp only at significand
      rw [p] at sign
      rw [q] at significand za zb
      rw [r] at za zb
      omega
    · rw [ofBits_subnormal za, (ofBits_normal zb).1] at significand
      dsimp only at significand
      omega
  · by_cases zb : b.toNat / Nat.pow 2 52 % Nat.pow 2 11 = 0
    · rw [ofBits_subnormal zb, (ofBits_normal za).1] at significand
      dsimp only at significand
      omega
    · rw [(ofBits_normal za).1, (ofBits_normal zb).1] at significand
      rw [(ofBits_normal za).2, (ofBits_normal zb).2] at exponent
      rw [p] at sign
      rw [q] at significand exponent
      rw [r] at exponent
      omega

theorem eq_of_toBits {x y : Float} (same : x.toBits = y.toBits) : x = y := by
  obtain ⟨⟨_, _⟩⟩ := x
  obtain ⟨⟨_, _⟩⟩ := y
  cases same
  rfl

section

open Float.Model Float.Model.UnpackedFloat

variable {x y : Float}

theorem beq_zero_iff (finite : x.isFinite = true) :
    (x == 0.0) = true ↔ (Binary.ofBits x.toBits).significand = 0 := by
  have compared : (x == 0.0) = (x.toModel.unpack.compare (.zero .positive) == some .eq) := rfl
  have known : x.toModel.unpack.isFinite = true := finite
  rw [compared, beq_iff_eq]
  cases h : x.toModel.unpack with
  | notANumber =>
    rw [h] at known
    cases known
  | infinity s =>
    rw [h] at known
    cases known
  | zero s => exact ⟨fun _ => zero_of_unpack h, fun _ => rfl⟩
  | finite s m e positive =>
    rw [(finite_of_unpack h).1]
    refine ⟨fun same => ?_, fun zero => by omega⟩
    cases s <;> cases same

theorem plain_eq (finite : x.isFinite = true) : plain x
    = (if isNegative x then ['-'] else []) ++ Layout.plain.magnitude (.ofBits x.toBits) := by
  have known : x.toModel.unpack.isFinite = true := finite
  have number : x.isNaN = false ∧ x.isInf = false := by
    show x.toModel.unpack.isNaN = false ∧ x.toModel.unpack.isInf = false
    cases h : x.toModel.unpack with
    | notANumber =>
      rw [h] at known
      cases known
    | infinity s =>
      rw [h] at known
      cases known
    | zero s => exact ⟨rfl, rfl⟩
    | finite s m e positive => exact ⟨rfl, rfl⟩
  rw [plain, Layout.text, number.1, number.2]
  rfl

theorem infinity_of_unpack {s : Sign} (h : x.toModel.unpack = .infinity s) :
    x.toBits.toNat % Nat.pow 2 52 = 0 ∧ x.toBits.toNat / Nat.pow 2 52 % Nat.pow 2 11 = 2047 := by
  have mantissa : (@unpackMantissa Format.binary64 x.toModel.toBits.toBitVec).toNat
      = x.toBits.toNat % Nat.pow 2 52 := mantissa_toNat _
  have exponent : (@unpackExponent Format.binary64 x.toModel.toBits.toBitVec).toNat
      = x.toBits.toNat / Nat.pow 2 52 % Nat.pow 2 11 := exponent_toNat _
  rw [unpack_eq, UnpackedFloat.unpack] at h
  dsimp only at h
  rw [← mantissa, ← exponent]
  split at h
  · rename_i high
    split at h
    · rename_i none
      rw [high, none]
      exact ⟨rfl, rfl⟩
    · cases h
  · split at h
    · split at h <;> cases h
    · cases h

/-- What the text of a number tells of it at once. -/
theorem plain_marks (x : Float) : ('N' ∈ plain x ↔ x.isNaN = true) ∧ ('i' ∈ plain x ↔ x.isInf = true) ∧
    (x.isNaN = false → ('-' ∈ plain x ↔ isNegative x = true)) := by
  have absent {c : Char} (other : c.isDigit = false) (point : c ≠ '.') :=
    not_mem_magnitude other point (.ofBits x.toBits)
  have n := absent (c := 'N') rfl (by decide)
  have i := absent (c := 'i') rfl (by decide)
  have m := absent (c := '-') rfl (by decide)
  have either : ¬(x.isNaN = true ∧ x.isInf = true) := by
    show ¬(x.toModel.unpack.isNaN = true ∧ x.toModel.unpack.isInf = true)
    cases x.toModel.unpack <;> simp [UnpackedFloat.isNaN, UnpackedFloat.isInf]
  rw [plain, Layout.text]
  cases nan : x.isNaN <;> cases inf : x.isInf <;> cases sign : isNegative x <;> simp_all

theorem exponent_of_zero {b : UInt64} (zero : (Binary.ofBits b).significand = 0) :
    (Binary.ofBits b).exponent = -1074 := by
  by_cases low : b.toNat / Nat.pow 2 52 % Nat.pow 2 11 = 0
  · rw [ofBits_subnormal low]
  · have : 0 < Nat.pow 2 52 := by decide
    rw [(ofBits_normal low).1] at zero
    omega

theorem value_of_zero {x : Binary} (zero : x.significand = 0) : (x.shortest .up).value = 0 := by
  simp [Binary.shortest, zero, Scaled.value]

theorem eq_of_magnitude (sign : isNegative x = isNegative y)
    (same : Layout.plain.magnitude (.ofBits x.toBits) = Layout.plain.magnitude (.ofBits y.toBits)) :
    x = y := by
  have value := congrArg textValue same
  rw [textValue_magnitude, textValue_magnitude] at value
  have fields : (Binary.ofBits x.toBits).significand = (Binary.ofBits y.toBits).significand ∧
      (Binary.ofBits x.toBits).exponent = (Binary.ofBits y.toBits).exponent := by
    by_cases zx : (Binary.ofBits x.toBits).significand = 0
    · by_cases zy : (Binary.ofBits y.toBits).significand = 0
      · exact ⟨zx.trans zy.symm, (exponent_of_zero zx).trans (exponent_of_zero zy).symm⟩
      · rw [value_of_zero zx] at value
        exact absurd value (Binary.value_pos zy (Binary.readsBack_shortest .up zy)).ne
    · have back := Binary.readsBack_shortest .up zx
      by_cases zy : (Binary.ofBits y.toBits).significand = 0
      · rw [value_of_zero zy] at value
        exact absurd value (Binary.value_pos zx back).ne'
      · rw [Binary.readsBack_congr _ value] at back
        exact Binary.eq_of_readsBack (Binary.normalized_ofBits _) (Binary.normalized_ofBits _) back
          (Binary.readsBack_shortest .up zy)
  have signs : Nat.pow 2 63 ≤ x.toBits.toNat ↔ Nat.pow 2 63 ≤ y.toBits.toNat := by
    rw [← decide_eq_decide]
    exact sign
  exact eq_of_toBits (eq_of_fields signs fields.1 fields.2)

theorem eq_of_isNaN (hx : x.isNaN = true) (hy : y.isNaN = true) : x = y := by
  rw [Float.isNaN_eq_decide_eq_nan, decide_eq_true_iff] at hx hy
  rw [hx, hy]

theorem eq_of_isInf (hx : x.isInf = true) (hy : y.isInf = true)
    (sign : isNegative x = isNegative y) : x = y := by
  have fields {z : Float} (inf : z.isInf = true) : z.toBits.toNat % Nat.pow 2 52 = 0 ∧
      z.toBits.toNat / Nat.pow 2 52 % Nat.pow 2 11 = 2047 := by
    have inf : z.toModel.unpack.isInf = true := inf
    cases h : z.toModel.unpack with
    | infinity s => exact infinity_of_unpack h
    | _ => rw [h] at inf; cases inf
  obtain ⟨fx, ex⟩ := fields hx
  obtain ⟨fy, ey⟩ := fields hy
  have sign : Nat.pow 2 63 ≤ x.toBits.toNat ↔ Nat.pow 2 63 ≤ y.toBits.toNat := by
    rw [← decide_eq_decide]
    exact sign
  refine eq_of_toBits (eq_of_fields sign ?_ ?_)
  · rw [(ofBits_normal (by omega)).1, (ofBits_normal (by omega)).1, fx, fy]
  · rw [(ofBits_normal (by omega)).2, (ofBits_normal (by omega)).2, ex, ey]

theorem isFinite_eq (x : Float) : x.isFinite = (!x.isNaN && !x.isInf) := by
  show x.toModel.unpack.isFinite = (!x.toModel.unpack.isNaN && !x.toModel.unpack.isInf)
  cases x.toModel.unpack <;> rfl

/-- The shortest text tells a number from every other. -/
theorem plain_injective : Function.Injective plain := by
  intro x y same
  obtain ⟨nx, ix, mx⟩ := plain_marks x
  obtain ⟨ny, iy, my⟩ := plain_marks y
  rw [same] at nx ix mx
  have nan : x.isNaN = y.isNaN := Bool.eq_iff_iff.2 (nx.symm.trans ny)
  have inf : x.isInf = y.isInf := Bool.eq_iff_iff.2 (ix.symm.trans iy)
  cases hn : x.isNaN with
  | true => exact eq_of_isNaN hn (nan ▸ hn)
  | false =>
    have sign : isNegative x = isNegative y :=
      Bool.eq_iff_iff.2 ((mx hn).symm.trans (my (nan ▸ hn)))
    cases hi : x.isInf with
    | true => exact eq_of_isInf hi (inf ▸ hi) sign
    | false =>
      have finite : x.isFinite = true := by
        rw [isFinite_eq, hn, hi]
        rfl
      have other : y.isFinite = true := by
        rw [isFinite_eq, ← nan, ← inf, hn, hi]
        rfl
      rw [plain_eq finite, plain_eq other, sign] at same
      exact eq_of_magnitude sign (List.append_cancel_left same)

/-- A finite number other than zero is not written without a sign and with the value of zero. -/
theorem plain_ne {s : List Char} (finite : x.isFinite = true) (other : (x == 0.0) = false)
    (unsigned : '-' ∉ s) (none : textValue s = 0) : plain x ≠ s := by
  have positive : (Binary.ofBits x.toBits).significand ≠ 0 := fun e => by
    simp [(beq_zero_iff finite).2 e] at other
  rintro rfl
  rw [plain_eq finite] at unsigned none
  cases sign : isNegative x with
  | true =>
    rw [sign] at unsigned
    exact unsigned List.mem_cons_self
  | false =>
    rw [sign] at none
    have value : textValue (Layout.plain.magnitude (.ofBits x.toBits)) = 0 := none
    rw [textValue_magnitude] at value
    exact (Binary.value_pos positive (Binary.readsBack_shortest .up positive)).ne' value

end

end MapLayer.Decimal
