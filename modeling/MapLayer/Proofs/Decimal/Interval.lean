import Mathlib
import MapLayer.Decimal.Shortest

/-! The reals that round to a number. Main statements: the shortest decimal of a number is one of them, and
no real rounds to two numbers. -/

namespace MapLayer.Decimal

def Scaled.value (d : Scaled) : ℚ := d.digits * 10 ^ d.exponent

theorem zpow_mul_toNat {b : ℚ} (nonzero : b ≠ 0) (i : ℤ) :
    b ^ i * b ^ (-i).toNat = b ^ i.toNat := by
  rw [← zpow_natCast, ← zpow_natCast, ← zpow_add₀ nonzero]
  congr 1
  omega

/-- Decimals are compared with multiples of powers of two exactly. -/
theorem compareScaled_eq (d : Scaled) (n : ℕ) (j : ℤ) :
    compareScaled d.digits d.exponent n j = compare d.value (n * 2 ^ j) := by
  have positive : (0 : ℚ) < 10 ^ (-d.exponent).toNat * 2 ^ (-j).toNat := by positivity
  have left : d.value * (10 ^ (-d.exponent).toNat * 2 ^ (-j).toNat)
      = (d.digits * Nat.pow 10 d.exponent.toNat * Nat.pow 2 (-j).toNat : ℕ) := by
    have tens := zpow_mul_toNat (b := 10) (by norm_num) d.exponent
    have powers : (Nat.pow 10 d.exponent.toNat : ℚ) = 10 ^ d.exponent.toNat := by norm_cast
    have twos : (Nat.pow 2 (-j).toNat : ℚ) = 2 ^ (-j).toNat := by norm_cast
    rw [Nat.cast_mul, Nat.cast_mul, powers, twos, ← tens, Scaled.value]
    ring
  have right : (n * 2 ^ j : ℚ) * (10 ^ (-d.exponent).toNat * 2 ^ (-j).toNat)
      = (n * Nat.pow 2 j.toNat * Nat.pow 10 (-d.exponent).toNat : ℕ) := by
    have twos := zpow_mul_toNat (b := 2) (by norm_num) j
    have powers : (Nat.pow 2 j.toNat : ℚ) = 2 ^ j.toNat := by norm_cast
    have tens : (Nat.pow 10 (-d.exponent).toNat : ℚ) = 10 ^ (-d.exponent).toNat := by norm_cast
    rw [Nat.cast_mul, Nat.cast_mul, powers, tens, ← twos]
    ring
  rw [← cmp_eq_compare, ← cmp_mul_pos_right positive, left, right,
    (Nat.strictMono_cast (α := ℚ)).cmp_map_eq, cmp_eq_compare]
  rfl

namespace Binary

/-- The ends of the interval of reals that round to a number. -/
def lowEnd (x : Binary) : ℚ :=
  (if x.narrow then 4 * x.significand - 1 else 4 * x.significand - 2 : ℕ) * 2 ^ (x.exponent - 2)

def highEnd (x : Binary) : ℚ := (4 * x.significand + 2 : ℕ) * 2 ^ (x.exponent - 2)

theorem readsBack_iff (x : Binary) (d : Scaled) : x.readsBack d = true ↔
    (x.lowEnd < d.value ∨ x.significand % 2 = 0 ∧ d.value = x.lowEnd) ∧
      (d.value < x.highEnd ∨ x.significand % 2 = 0 ∧ d.value = x.highEnd) := by
  unfold readsBack
  dsimp only
  rw [compareScaled_eq, compareScaled_eq]
  simp only [Bool.and_eq_true, Bool.or_eq_true, beq_iff_eq, compare_gt_iff_gt, compare_lt_iff_lt,
    compare_eq_iff_eq]
  rfl

theorem readsBack_congr (x : Binary) {d e : Scaled} (same : d.value = e.value) :
    x.readsBack d = x.readsBack e := by
  rw [Bool.eq_iff_iff, readsBack_iff, readsBack_iff, same]

end Binary

theorem Scaled.value_reduced (d : Scaled) : d.reduced.value = d.value := by
  fun_induction Scaled.reduced d with
  | case1 d ends ih =>
    have tens : (d.digits : ℚ) = (d.digits / 10 : ℕ) * 10 := by
      have whole : d.digits = d.digits / 10 * 10 := by omega
      exact_mod_cast whole
    rw [ih, value, value, tens, zpow_add_one₀ (by norm_num)]
    ring
  | case2 d => rfl

namespace Binary

theorem readsBack_onGrid? {tie : Tie} {x : Binary} {g : ℤ} {d : Scaled}
    (found : x.onGrid? tie g = some d) : x.readsBack d = true := by
  unfold onGrid? at found
  dsimp only at found
  split at found
  · rename_i low high
    split at found
    · cases found
      exact low
    · cases found
      exact high
    · split at found
      · cases found
        exact high
      · split at found
        · cases found
          exact low
        · cases found
          exact high
  · rename_i low _
    cases found
    exact low
  · rename_i _ high
    cases found
    exact high
  · cases found

theorem value_exact (x : Binary) : x.exact.value = x.significand * 2 ^ x.exponent := by
  unfold exact
  split
  · rename_i below
    have five : (Nat.pow 5 (-x.exponent).toNat : ℚ) = 5 ^ (-x.exponent) := by
      rw [← Int.toNat_of_nonneg (by omega : 0 ≤ -x.exponent), zpow_natCast, Int.toNat_natCast]
      norm_cast
    have ten : (10 : ℚ) ^ x.exponent = 5 ^ x.exponent * 2 ^ x.exponent := by
      rw [← mul_zpow]
      norm_num
    rw [Scaled.value, Nat.cast_mul, five, ten, zpow_neg]
    field_simp
  · rename_i above
    have two : (Nat.pow 2 x.exponent.toNat : ℚ) = 2 ^ x.exponent := by
      rw [← Int.toNat_of_nonneg (by omega : 0 ≤ x.exponent), zpow_natCast, Int.toNat_natCast]
      norm_cast
    rw [Scaled.value, Nat.cast_mul, two, zpow_zero, mul_one]

theorem readsBack_exact {x : Binary} (positive : x.significand ≠ 0) :
    x.readsBack x.exact = true := by
  have quarters : (x.significand * 2 ^ x.exponent : ℚ)
      = (4 * x.significand : ℕ) * 2 ^ (x.exponent - 2) := by
    rw [zpow_sub₀ (by norm_num)]
    push_cast
    ring
  have scale : (0 : ℚ) < 2 ^ (x.exponent - 2) := by positivity
  rw [readsBack_iff, value_exact, quarters]
  refine ⟨.inl (mul_lt_mul_of_pos_right ?_ scale), .inl (mul_lt_mul_of_pos_right ?_ scale)⟩
  · rw [Nat.cast_lt]
    split <;> omega
  · rw [Nat.cast_lt]
    omega

/-- The shortest decimal of a number reads back as it. -/
theorem readsBack_shortest (tie : Tie) {x : Binary} (positive : x.significand ≠ 0) :
    x.readsBack (x.shortest tie) = true := by
  unfold shortest
  rw [if_neg positive]
  dsimp only
  rw [x.readsBack_congr (Scaled.value_reduced _)]
  cases found : (List.range 17).findSome? fun n => x.onGrid? tie (x.scale - (n + 1 : ℕ)) with
  | none => exact readsBack_exact positive
  | some d =>
    obtain ⟨n, -, grid⟩ := List.exists_of_findSome?_eq_some found
    exact readsBack_onGrid? grid

/-- The numbers that bits stand for. The least significand of an exponent has half the gap below it,
unless that is the least exponent. -/
structure Normalized (x : Binary) : Prop where
  bound : x.significand < 2 ^ 53
  least : -1074 ≤ x.exponent
  leading : -1074 < x.exponent → 2 ^ 52 ≤ x.significand
  narrow : x.narrow = true ↔ x.significand = 2 ^ 52 ∧ -1074 < x.exponent

theorem normalized_ofBits (b : UInt64) : (ofBits b).Normalized := by
  have fraction : b.toNat % Nat.pow 2 52 < 2 ^ 52 := Nat.mod_lt _ (by decide)
  unfold ofBits
  dsimp only
  generalize b.toNat % Nat.pow 2 52 = f at fraction
  generalize b.toNat / Nat.pow 2 52 % Nat.pow 2 11 = e
  have leading : Nat.pow 2 52 = 2 ^ 52 := rfl
  split
  · exact ⟨by dsimp only; omega, le_refl _, by simp, by simp⟩
  · refine ⟨by dsimp only; omega, by dsimp only; omega, fun _ => Nat.le_add_right _ _, ?_⟩
    simp only [Bool.and_eq_true, beq_iff_eq, decide_eq_true_eq, leading]
    omega

variable {x y : Binary} {d : Scaled}

/-- The interval of a number ends where that of a greater one starts, or before. If both own their ends,
it ends before. -/
theorem ends_of_less (hx : x.Normalized) (hy : y.Normalized)
    (less : x.exponent < y.exponent ∨ x.exponent = y.exponent ∧ x.significand < y.significand) :
    x.highEnd ≤ y.lowEnd ∧
      (x.significand % 2 = 0 → y.significand % 2 = 0 → x.highEnd < y.lowEnd) := by
  obtain ⟨k, apart⟩ : ∃ k : ℕ, y.exponent = x.exponent + k :=
    ⟨(y.exponent - x.exponent).toNat, by omega⟩
  have scale : (0 : ℚ) < 2 ^ (x.exponent - 2) := by positivity
  -- both ends as multiples of a quarter of the unit of `x`
  generalize low : (if y.narrow then 4 * y.significand - 1 else 4 * y.significand - 2) = l
  have start : y.lowEnd = (l * 2 ^ k : ℕ) * 2 ^ (x.exponent - 2) := by
    have split : y.exponent - 2 = k + (x.exponent - 2) := by omega
    rw [lowEnd, low, split, zpow_add₀ (by norm_num), zpow_natCast, ← mul_assoc]
    push_cast
    rfl
  suffices whole : 4 * x.significand + 2 ≤ l * 2 ^ k ∧
      (x.significand % 2 = 0 → y.significand % 2 = 0 → 4 * x.significand + 2 < l * 2 ^ k) by
    rw [start, highEnd]
    refine ⟨mul_le_mul_of_nonneg_right (Nat.cast_le.2 whole.1) scale.le, fun ex ey => ?_⟩
    exact mul_lt_mul_of_pos_right (Nat.cast_lt.2 (whole.2 ex ey)) scale
  have bound := hx.bound
  have least := hx.least
  have narrow := hy.narrow
  cases k with
  | zero =>
    rw [pow_zero, mul_one]
    split at low <;> omega
  | succ k =>
    have leading := hy.leading (by omega)
    have doubled : l * 2 ≤ l * 2 ^ (k + 1) := by
      rw [pow_succ]
      exact Nat.mul_le_mul_left l (Nat.le_mul_of_pos_left 2 (by positivity))
    generalize l * 2 ^ (k + 1) = start at doubled
    split at low
    · rename_i half
      have least := (narrow.1 half).1
      omega
    · rename_i whole
      have above : y.significand ≠ 2 ^ 52 := fun e => whole (narrow.2 ⟨e, by omega⟩)
      omega

theorem not_readsBack_of_less (hx : x.Normalized) (hy : y.Normalized)
    (less : x.exponent < y.exponent ∨ x.exponent = y.exponent ∧ x.significand < y.significand)
    (hd : x.readsBack d = true) : y.readsBack d = false := by
  rw [Bool.eq_false_iff]
  intro again
  obtain ⟨-, upper⟩ := (readsBack_iff x d).1 hd
  obtain ⟨lower, -⟩ := (readsBack_iff y d).1 again
  obtain ⟨touch, apart⟩ := ends_of_less hx hy less
  rcases upper with upper | ⟨ex, upper⟩
  · rcases lower with lower | ⟨-, lower⟩ <;> linarith
  · rcases lower with lower | ⟨ey, lower⟩
    · linarith
    · have := apart ex ey
      linarith

/-- No decimal reads back as two numbers. -/
theorem eq_of_readsBack (hx : x.Normalized) (hy : y.Normalized) (dx : x.readsBack d = true)
    (dy : y.readsBack d = true) : x.significand = y.significand ∧ x.exponent = y.exponent := by
  have one := fun less => not_readsBack_of_less hx hy less dx
  have other := fun less => not_readsBack_of_less hy hx less dy
  rw [dy] at one
  rw [dx] at other
  simp only [Bool.true_eq_false, imp_false, not_or, not_and, not_lt] at one other
  omega

theorem value_pos (positive : x.significand ≠ 0) (hd : x.readsBack d = true) : 0 < d.value := by
  have low : 0 < x.lowEnd := by
    refine mul_pos (Nat.cast_pos.2 ?_) (by positivity)
    split <;> omega
  rcases ((readsBack_iff x d).1 hd).1 with above | ⟨-, same⟩
  · exact low.trans above
  · exact same ▸ low

end Binary

end MapLayer.Decimal
