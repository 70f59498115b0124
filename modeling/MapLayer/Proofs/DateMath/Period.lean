import MapLayer.DateMath
import MapLayer.Proofs.Calendar.Clock
import MapLayer.Proofs.Calendar.Months

/-!
The periods of the units of time, numbered so that each begins where the one before ends. Main statements:
rounding goes to the start of the period that an instant lies in, or to the last millisecond before the
next one.
-/

namespace MapLayer.DateMath

open Date Instant

namespace TimeUnit

/-- The first second of a period. -/
def opening : TimeUnit → Int → Int
  | second, k => k
  | minute, k => 60 * k
  | hour, k => 3600 * k
  | day, k => 86400 * k
  | week, k => 604800 * k
  | month, k => 86400 * monthStart k
  | year, k => 86400 * daysBeforeYear k

/-- The period that a second lies in. -/
def period : TimeUnit → Int → Int
  | second, s => s
  | minute, s => s / 60
  | hour, s => s / 3600
  | day, s => s / 86400
  | week, s => s / 604800
  | month, s => monthOf (s / 86400)
  | year, s => yearOf (s / 86400)

/-- The seconds of a unit that is always equally long. -/
def length? : TimeUnit → Option Int
  | second => some 1
  | minute => some 60
  | hour => some 3600
  | day => some 86400
  | week => some 604800
  | month | year => none

theorem opening_eq {u : TimeUnit} {length : Int} (fixed : u.length? = some length) (k : Int) :
    u.opening k = length * k := by
  cases u with
  | second => cases fixed; exact (Int.one_mul k).symm
  | month => cases fixed
  | year => cases fixed
  | _ => cases fixed; rfl

theorem strictMono_opening (u : TimeUnit) : StrictMono u.opening := by
  refine strictMono_int_of_lt_succ fun k => ?_
  have months := strictMono_monthStart (Int.lt_succ k)
  have years := strictMono_daysBeforeYear (Int.lt_succ k)
  cases u <;> simp only [opening] <;> omega

theorem galois_days {start run : Int → Int} (h : GaloisConnection start run) :
    GaloisConnection (fun k => 86400 * start k) fun s => run (s / 86400) := by
  intro k s
  rw [← h k (s / 86400)]
  exact (Int.le_ediv_iff_mul_le (by decide)).trans (by rw [Int.mul_comm]) |>.symm

/-- A period has begun at a second exactly if it is no later than the period of the second. -/
theorem galois (u : TimeUnit) : GaloisConnection u.opening u.period := by
  cases u with
  | month => exact galois_days galois_monthOf
  | year => exact galois_days galois_yearOf
  | second => exact fun k s => Iff.rfl
  | _ =>
    intro k s
    simp only [opening, period]
    omega

theorem period_opening (u : TimeUnit) (k : Int) : u.period (u.opening k) = k :=
  run_start u.galois u.strictMono_opening k

theorem opening_le (u : TimeUnit) (s : Int) : u.opening (u.period s) ≤ s := u.galois.l_u_le s

theorem lt_opening_succ (u : TimeUnit) (s : Int) : s < u.opening (u.period s + 1) := by
  rw [← not_le, u.galois]
  exact Int.not_le.2 (Int.lt_succ _)

end TimeUnit

theorem ofClock?_midnight (n : Int) :
    ofClock? (86400 * n) 0 = if inRange n then some (startOfDay n) else none := by
  have parts : 0 + 86400 * n / 86400 = n ∧ 86400 * n % 86400 = 0 := by omega
  rw [ofClock?, ofSeconds?_def, parts.1, parts.2]
  rfl

theorem map_startOfDay_number? (k : Int) :
    (firstOfMonth k).number?.map startOfDay = ofClock? (86400 * monthStart k) 0 := by
  rw [number?_firstOfMonth, ofClock?_midnight]
  split <;> rfl

theorem startOf_eq {t : Instant} (h : t.InCalendar) (u : TimeUnit) :
    startOf t u = ofClock? (u.opening (u.period t.seconds)) 0 := by
  have bound : t.second < 86400 := h.second_lt
  have day : t.seconds / 86400 = t.day := by
    simp only [seconds]
    omega
  -- the units within a day keep the day of the instant
  have within (second : Nat) (earlier : second ≤ t.second)
      (same : seconds ⟨t.day, second, 0⟩ = u.opening (u.period t.seconds)) :
      some ⟨t.day, second, 0⟩ = ofClock? (u.opening (u.period t.seconds)) 0 := by
    symm
    exact ofClock?_eq_some.2 ⟨⟨h.inRange, earlier.trans_lt h.second_lt⟩, same, rfl⟩
  cases u with
  | second => exact within t.second (Nat.le_refl _) rfl
  | minute =>
    refine within _ (Nat.div_mul_le_self _ _) ?_
    simp only [TimeUnit.opening, TimeUnit.period, seconds]
    omega
  | hour =>
    refine within _ (Nat.div_mul_le_self _ _) ?_
    simp only [TimeUnit.opening, TimeUnit.period, seconds]
    omega
  | day =>
    refine within 0 (Nat.zero_le _) ?_
    simp only [TimeUnit.opening, TimeUnit.period, seconds]
    omega
  | week =>
    have monday : 604800 * (t.seconds / 604800) = 86400 * (t.day - daysFromMonday t.day) := by
      simp only [daysFromMonday, ← day]
      omega
    simp only [TimeUnit.opening, TimeUnit.period, monday]
    exact (ofClock?_midnight _).symm
  | month =>
    simp only [TimeUnit.opening, TimeUnit.period, day, ← map_startOfDay_number?]
    rw [firstOfMonth_monthOf]
    rfl
  | year =>
    have january : firstOfMonth (12 * yearOf t.day) = ⟨yearOf t.day, 1, 1⟩ := by
      simp [firstOfMonth]
    simp only [TimeUnit.opening, TimeUnit.period, day, ← monthStart_year, ← map_startOfDay_number?]
    rw [january]
    rfl

theorem shift_eq_addSeconds? {u : TimeUnit} {length : Int} (fixed : u.length? = some length)
    (t : Instant) (n : Int) : shift t n u = t.addSeconds? (n * length) := by
  cases u with
  | second => cases fixed; exact congrArg t.addSeconds? (Int.mul_one n).symm
  | month => cases fixed
  | year => cases fixed
  | _ => cases fixed; rfl

theorem shift_opening {u : TimeUnit} {k : Int} {t : Instant}
    (found : ofClock? (u.opening k) 0 = some t) (n : Int) :
    shift t n u = ofClock? (u.opening (k + n)) 0 := by
  obtain ⟨calendar, second, nano⟩ := ofClock?_eq_some.1 found
  have ordinary : t.IsOrdinary := ⟨calendar, by rw [nano]; decide⟩
  have moved (seconds : Int) : t.addSeconds? seconds = ofClock? (u.opening k + seconds) 0 := by
    rw [addSeconds?_eq ordinary, second, nano]
  have months {j : Int} (m : Int) (started : ofClock? (86400 * monthStart j) 0 = some t) :
      t.addMonths? m = ofClock? (86400 * monthStart (j + m)) 0 := by
    rw [ofClock?_midnight] at started
    split at started
    · cases started
      rw [addMonths?, startOfDay, ofNumber_monthStart, addMonths_firstOfMonth,
        ← map_startOfDay_number?]
      rfl
    · cases started
  cases fixed : u.length? with
  | some length =>
    rw [shift_eq_addSeconds? fixed, moved, TimeUnit.opening_eq fixed, TimeUnit.opening_eq fixed]
    congr 1
    ring
  | none =>
    cases u with
    | month => exact months n found
    | year =>
      simp only [TimeUnit.opening, ← monthStart_year] at found ⊢
      rw [shift, months (n * 12) found, Int.mul_add, Int.mul_comm n]
    | _ => cases fixed

theorem previousMilli?_of_ofClock? {s : Int} {t : Instant} (found : ofClock? s 0 = some t) :
    t.previousMilli? = ofClock? (s - 1) 999000000 := by
  obtain ⟨-, second, nano⟩ := ofClock?_eq_some.1 found
  simp only [previousMilli?, nano]
  rw [if_neg (by decide), ofSeconds?_eq, ← second]
  congr 1
  simp only [seconds]
  omega

/-- What rounding up makes of an instant: the last millisecond before the next period. -/
theorem round_up_inv {u : TimeUnit} {t r : Instant} (h : t.InCalendar)
    (rounded : round t u true = some r) :
    ∃ start next, ofClock? (u.opening (u.period t.seconds)) 0 = some start ∧
      ofClock? (u.opening (u.period t.seconds + 1)) 0 = some next ∧
      ofClock? (u.opening (u.period t.seconds + 1) - 1) 999000000 = some r := by
  simp only [round, if_true, Option.bind_eq_bind, Option.bind_eq_some_iff] at rounded
  obtain ⟨start, begun, next, moved, last⟩ := rounded
  rw [startOf_eq h] at begun
  rw [shift_opening begun] at moved
  rw [previousMilli?_of_ofClock? moved] at last
  exact ⟨start, next, begun, moved, last⟩

theorem round_congr {u : TimeUnit} {s t : Instant} (hs : s.InCalendar) (ht : t.InCalendar)
    (same : u.period s.seconds = u.period t.seconds) (up : Bool) : round s u up = round t u up := by
  have start : startOf s u = startOf t u := by
    rw [startOf_eq hs, startOf_eq ht, same]
  rw [round, round, start]

theorem round_spec {u : TimeUnit} {up : Bool} {t r : Instant} (h : t.InCalendar)
    (rounded : round t u up = some r) : r.IsWhole ∧
      r.nanos = if up then u.opening (u.period t.seconds + 1) * 1000000000 - 1000000
        else u.opening (u.period t.seconds) * 1000000000 := by
  cases up with
  | false =>
    have start : ofClock? (u.opening (u.period t.seconds)) 0 = some r := by
      rw [← startOf_eq h]
      exact rounded
    obtain ⟨whole, spot⟩ := isWhole_of_ofClock? (by decide) rfl start
    exact ⟨whole, by simpa using spot⟩
  | true =>
    obtain ⟨-, -, -, -, last⟩ := round_up_inv h rounded
    obtain ⟨whole, spot⟩ := isWhole_of_ofClock? (by decide) rfl last
    refine ⟨whole, ?_⟩
    simp only [spot, if_true]
    omega

end MapLayer.DateMath
