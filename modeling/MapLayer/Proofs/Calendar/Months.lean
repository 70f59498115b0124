import Mathlib
import MapLayer.Calendar.Date

/-!
Months and years as runs of days. Months are counted from January of year 0. Main statements: months and
years follow one another without a gap, and the date of a day tells the month that the day lies in.
-/

namespace MapLayer.Date

theorem daysBeforeYear_lt_succ (year : Int) : daysBeforeYear year < daysBeforeYear (year + 1) := by
  have length := yearLength year
  split at length <;> omega

theorem strictMono_daysBeforeYear : StrictMono daysBeforeYear :=
  strictMono_int_of_lt_succ daysBeforeYear_lt_succ

theorem monthLength_pos (year : Int) (month : Nat) : 0 < monthLength year month := by
  unfold monthLength
  split
  · split <;> decide
  all_goals decide

theorem daysBeforeMonth_succ (year : Int) {month : Nat} (counted : 1 ≤ month) :
    daysBeforeMonth year (month + 1) = daysBeforeMonth year month + monthLength year month := by
  obtain ⟨k, rfl⟩ := Nat.exists_eq_add_of_le' counted
  rfl

theorem daysBeforeYear_succ (year : Int) :
    daysBeforeYear (year + 1) = daysBeforeYear year + daysBeforeMonth year 13 := by
  have length := yearLength year
  have sum : daysBeforeMonth year 13 = if isLeap year then 366 else 365 := by
    simp only [daysBeforeMonth, monthLength]
    split <;> rfl
  rw [sum]
  split at length <;> simp_all <;> omega

def firstOfMonth (k : Int) : Date := ⟨k / 12, (k % 12).toNat + 1, 1⟩

def monthStart (k : Int) : Int := (firstOfMonth k).number

theorem monthStart_eq (k : Int) :
    monthStart k = daysBeforeYear (k / 12) + daysBeforeMonth (k / 12) ((k % 12).toNat + 1) := by
  simp [monthStart, firstOfMonth, number]

theorem monthStart_succ (k : Int) :
    monthStart (k + 1) = monthStart k + monthLength (k / 12) ((k % 12).toNat + 1) := by
  rw [monthStart_eq, monthStart_eq]
  have length := daysBeforeMonth_succ (k / 12) (Nat.le_add_left 1 (k % 12).toNat)
  -- behind December the count of the months starts anew
  by_cases december : k % 12 = 11
  · have next : (k + 1) / 12 = k / 12 + 1 ∧ (k + 1) % 12 = 0 := by omega
    have year := daysBeforeYear_succ (k / 12)
    rw [next.1, next.2]
    simp only [december] at *
    simp [daysBeforeMonth] at *
    omega
  · have same : (k + 1) / 12 = k / 12 ∧ ((k + 1) % 12).toNat = (k % 12).toNat + 1 := by omega
    rw [same.1, same.2]
    omega

theorem strictMono_monthStart : StrictMono monthStart := by
  refine strictMono_int_of_lt_succ fun k => ?_
  have pos := monthLength_pos (k / 12) ((k % 12).toNat + 1)
  rw [monthStart_succ]
  omega

theorem monthStart_year (year : Int) : monthStart (12 * year) = daysBeforeYear year := by
  have january : 12 * year / 12 = year ∧ 12 * year % 12 = 0 := by omega
  rw [monthStart_eq, january.1, january.2]
  simp [daysBeforeMonth]

/-- The search for a month stops at the one that the day lies in. -/
theorem monthFrom_spec {year : Int} {rest : Nat} (month toCome : Nat)
    (begun : daysBeforeMonth year month ≤ rest)
    (ended : rest < daysBeforeMonth year (month + toCome + 1)) :
    month ≤ monthFrom year rest month toCome ∧ monthFrom year rest month toCome ≤ month + toCome ∧
      daysBeforeMonth year (monthFrom year rest month toCome) ≤ rest ∧
      rest < daysBeforeMonth year (monthFrom year rest month toCome + 1) := by
  induction toCome generalizing month with
  | zero => exact ⟨Nat.le_refl _, Nat.le_refl _, begun, ended⟩
  | succ toCome ih =>
    rw [monthFrom]
    split
    · rename_i before
      exact ⟨Nat.le_refl _, by omega, begun, before⟩
    · rename_i after
      have same : month + (toCome + 1) + 1 = month + 1 + toCome + 1 := by omega
      have found := ih (month + 1) (Nat.le_of_not_lt after) (same ▸ ended)
      omega

def monthOf (n : Int) : Int := (ofNumber n).year * 12 + ((ofNumber n).month - 1 : Nat)

theorem ofNumber_month (n : Int) : 1 ≤ (ofNumber n).month ∧ (ofNumber n).month ≤ 12 ∧
    daysBeforeYear (yearOf n) + daysBeforeMonth (yearOf n) (ofNumber n).month ≤ n ∧
    n < daysBeforeYear (yearOf n) + daysBeforeMonth (yearOf n) ((ofNumber n).month + 1) := by
  have begun := yearOf_le n
  have ended := lt_yearOf_succ n
  rw [daysBeforeYear_succ] at ended
  have inside : (n - daysBeforeYear (yearOf n)).toNat < daysBeforeMonth (yearOf n) 13 := by omega
  have found := monthFrom_spec 1 11 (Nat.zero_le _) inside
  simp only [ofNumber]
  omega

theorem firstOfMonth_monthOf (n : Int) :
    firstOfMonth (monthOf n) = ⟨yearOf n, (ofNumber n).month, 1⟩ := by
  obtain ⟨low, high, -⟩ := ofNumber_month n
  have year : (ofNumber n).year = yearOf n := rfl
  have parts : monthOf n / 12 = yearOf n ∧ (monthOf n % 12).toNat + 1 = (ofNumber n).month := by
    rw [monthOf, year]
    omega
  rw [firstOfMonth, parts.1, parts.2]

theorem monthStart_monthOf (n : Int) : monthStart (monthOf n)
    = daysBeforeYear (yearOf n) + daysBeforeMonth (yearOf n) (ofNumber n).month := by
  simp [monthStart, firstOfMonth_monthOf, number]

theorem monthStart_le (n : Int) : monthStart (monthOf n) ≤ n := by
  rw [monthStart_monthOf]
  exact (ofNumber_month n).2.2.1

theorem lt_monthStart_succ (n : Int) : n < monthStart (monthOf n + 1) := by
  obtain ⟨low, -, -, ended⟩ := ofNumber_month n
  have length := daysBeforeMonth_succ (yearOf n) low
  have parts := firstOfMonth_monthOf n
  simp only [firstOfMonth, mk.injEq, and_true] at parts
  rw [monthStart_succ, monthStart_monthOf, parts.1, parts.2]
  omega

/-- Runs that follow one another without a gap are told by their starts. -/
theorem galois_of_runs {start run : Int → Int} (strict : StrictMono start)
    (begun : ∀ n, start (run n) ≤ n) (ended : ∀ n, n < start (run n + 1)) :
    GaloisConnection start run := by
  intro k n
  constructor
  · intro started
    have before := strict.lt_iff_lt.1 (started.trans_lt (ended n))
    exact Int.lt_add_one_iff.1 before
  · intro early
    exact (strict.monotone early).trans (begun n)

theorem galois_monthOf : GaloisConnection monthStart monthOf :=
  galois_of_runs strictMono_monthStart monthStart_le lt_monthStart_succ

theorem galois_yearOf : GaloisConnection daysBeforeYear yearOf :=
  galois_of_runs strictMono_daysBeforeYear yearOf_le lt_yearOf_succ

theorem run_start {start run : Int → Int} (galois : GaloisConnection start run)
    (strict : StrictMono start) (k : Int) : run (start k) = k :=
  le_antisymm (strict.le_iff_le.1 (galois.l_u_le (start k))) (galois.le_u_l k)

/-- The date of a day is its month with the days since the first. -/
theorem ofNumber_eq (n : Int) : ofNumber n
    = { firstOfMonth (monthOf n) with day := (n - monthStart (monthOf n)).toNat + 1 } := by
  have begun := (ofNumber_month n).2.2.1
  have day : (ofNumber n).day
      = (n - daysBeforeYear (yearOf n)).toNat - daysBeforeMonth (yearOf n) (ofNumber n).month + 1 := rfl
  rw [firstOfMonth_monthOf, monthStart_monthOf, mk.injEq]
  exact ⟨rfl, rfl, by rw [day]; omega⟩

theorem ofNumber_monthStart (k : Int) : ofNumber (monthStart k) = firstOfMonth k := by
  rw [ofNumber_eq, run_start galois_monthOf strictMono_monthStart, Int.sub_self]
  rfl

theorem addMonths_firstOfMonth (k months : Int) :
    (firstOfMonth k).addMonths months = firstOfMonth (k + months) := by
  have total : k / 12 * 12 + ((k % 12).toNat + 1 - 1 : Nat) + months = k + months := by omega
  have pos := monthLength_pos ((k + months) / 12) (((k + months) % 12).toNat + 1)
  simp only [addMonths, firstOfMonth, total, mk.injEq, true_and]
  omega

theorem inRange_iff {n : Int} : inRange n = true ↔
    daysBeforeYear minYear ≤ n ∧ n < daysBeforeYear (maxYear + 1) := by
  simp [inRange]

theorem inRange_iff_yearOf {n : Int} :
    inRange n = true ↔ minYear ≤ yearOf n ∧ yearOf n ≤ maxYear := by
  rw [inRange_iff, galois_yearOf, ← not_le, galois_yearOf, not_le, Int.lt_add_one_iff]

theorem isValid_iff {d : Date} : d.isValid = true ↔
    1 ≤ d.month ∧ d.month ≤ 12 ∧ 1 ≤ d.day ∧ d.day ≤ monthLength d.year d.month := by
  simp [isValid, and_assoc]

theorem number_bounds {d : Date} (valid : d.isValid = true) :
    daysBeforeYear d.year ≤ d.number ∧ d.number < daysBeforeYear (d.year + 1) := by
  obtain ⟨low, high, first, last⟩ := isValid_iff.1 valid
  have parts : (12 * d.year + (d.month - 1 : Nat)) / 12 = d.year ∧
      ((12 * d.year + (d.month - 1 : Nat)) % 12).toNat + 1 = d.month := by omega
  have start := monthStart_eq (12 * d.year + (d.month - 1 : Nat))
  have next := monthStart_succ (12 * d.year + (d.month - 1 : Nat))
  rw [parts.1, parts.2] at start next
  have begun : monthStart (12 * d.year) ≤ monthStart (12 * d.year + (d.month - 1 : Nat)) :=
    strictMono_monthStart.monotone (by omega)
  have ended : monthStart (12 * d.year + (d.month - 1 : Nat) + 1) ≤ monthStart (12 * (d.year + 1)) :=
    strictMono_monthStart.monotone (by omega)
  rw [monthStart_year] at begun ended
  rw [number]
  omega

theorem isValid_firstOfMonth (k : Int) : (firstOfMonth k).isValid = true := by
  have pos := monthLength_pos (k / 12) ((k % 12).toNat + 1)
  refine isValid_iff.2 ?_
  simp only [firstOfMonth]
  omega

theorem isValid_ofNumber (n : Int) : (ofNumber n).isValid = true := by
  obtain ⟨low, high, begun, ended⟩ := ofNumber_month n
  rw [daysBeforeMonth_succ _ low] at ended
  have year : (ofNumber n).year = yearOf n := rfl
  have day : (ofNumber n).day
      = (n - daysBeforeYear (yearOf n)).toNat - daysBeforeMonth (yearOf n) (ofNumber n).month + 1 := rfl
  rw [isValid_iff, year]
  omega

theorem isValid_addMonths {d : Date} (valid : d.isValid = true) (months : Int) :
    (d.addMonths months).isValid = true := by
  obtain ⟨-, -, first, -⟩ := isValid_iff.1 valid
  let total := d.year * 12 + (d.month - 1 : Nat) + months
  have pos := monthLength_pos (total / 12) ((total % 12).toNat + 1)
  refine isValid_iff.2 ?_
  change 1 ≤ (total % 12).toNat + 1 ∧ (total % 12).toNat + 1 ≤ 12 ∧
    1 ≤ min d.day (monthLength (total / 12) ((total % 12).toNat + 1)) ∧
    min d.day (monthLength (total / 12) ((total % 12).toNat + 1))
      ≤ monthLength (total / 12) ((total % 12).toNat + 1)
  omega

theorem yearOf_number {d : Date} (valid : d.isValid = true) : yearOf d.number = d.year := by
  obtain ⟨begun, ended⟩ := number_bounds valid
  rw [galois_yearOf] at begun
  rw [← not_le, galois_yearOf] at ended
  omega

theorem number?_eq {d : Date} (valid : d.isValid = true) :
    d.number? = if inRange d.number then some d.number else none := by
  have range : inRange d.number = true ↔ minYear ≤ d.year ∧ d.year ≤ maxYear := by
    rw [inRange_iff_yearOf, yearOf_number valid]
  simp only [number?, valid, Bool.true_and, Bool.and_eq_true, decide_eq_true_eq, range]

theorem number?_firstOfMonth (k : Int) : (firstOfMonth k).number?
    = if inRange (monthStart k) then some (monthStart k) else none :=
  number?_eq (isValid_firstOfMonth k)

theorem inRange_of_number? {d : Date} {n : Int} (h : d.number? = some n) : inRange n = true := by
  by_cases valid : d.isValid = true
  · rw [number?_eq valid] at h
    split at h
    · rename_i range
      obtain rfl := Option.some.inj h
      exact range
    · cases h
  · simp [number?, valid] at h

end MapLayer.Date
