/-!
The Gregorian calendar, extended to all years. Days are numbered from 1 January of year 1, which is
day 0 and a Monday. Main statement: a day lies in the year that `yearOf` gives it.
-/

namespace MapLayer

structure Date where
  year : Int
  month : Nat
  day : Nat
deriving DecidableEq, Repr

namespace Date

def daysBeforeYear (year : Int) : Int :=
  365 * (year - 1) + (year - 1) / 4 - (year - 1) / 100 + (year - 1) / 400

def isLeap (year : Int) : Bool :=
  year % 4 == 0 && (year % 100 != 0 || year % 400 == 0)

def monthLength (year : Int) (month : Nat) : Nat :=
  match month with
  | 2 => if isLeap year then 29 else 28
  | 4 | 6 | 9 | 11 => 30
  | _ => 31

def daysBeforeMonth (year : Int) : Nat → Nat
  | 0 | 1 => 0
  | month + 2 => daysBeforeMonth year (month + 1) + monthLength year (month + 1)

def isValid (d : Date) : Bool :=
  1 ≤ d.month && d.month ≤ 12 && 1 ≤ d.day && d.day ≤ monthLength d.year d.month

def number (d : Date) : Int :=
  daysBeforeYear d.year + daysBeforeMonth d.year d.month + d.day - 1

/-- The year of a day. The guess from the mean length of a year is at most one off. -/
def yearOf (n : Int) : Int :=
  let guess := 400 * n / 146097 + 1
  if n < daysBeforeYear guess then guess - 1
  else if daysBeforeYear (guess + 1) ≤ n then guess + 1
  else guess

/-- The month of the day with `rest` days of the year before it, from a month on. The months to
come after it are counted, so that December is the last. -/
def monthFrom (year : Int) (rest : Nat) : (month toCome : Nat) → Nat
  | month, 0 => month
  | month, toCome + 1 =>
    if rest < daysBeforeMonth year (month + 1) then month
    else monthFrom year rest (month + 1) toCome

def ofNumber (n : Int) : Date :=
  let year := yearOf n
  let rest := (n - daysBeforeYear year).toNat
  let month := monthFrom year rest 1 11
  ⟨year, month, rest - daysBeforeMonth year month + 1⟩

def minYear : Int := -262143
def maxYear : Int := 262142

def inRange (n : Int) : Bool :=
  daysBeforeYear minYear ≤ n && n < daysBeforeYear (maxYear + 1)

def number? (d : Date) : Option Int :=
  if d.isValid && minYear ≤ d.year && d.year ≤ maxYear then some d.number else none

def daysFromMonday (n : Int) : Int := n % 7

/-- The date some months later, on the last day of the month if its own day does not exist. -/
def addMonths (d : Date) (months : Int) : Date :=
  let total := d.year * 12 + (d.month - 1 : Nat) + months
  let year := total / 12
  let month := (total % 12).toNat + 1
  ⟨year, month, min d.day (monthLength year month)⟩

theorem yearOf_le (n : Int) : daysBeforeYear (yearOf n) ≤ n := by
  unfold yearOf
  dsimp only
  split
  · simp only [daysBeforeYear] at *
    omega
  · split
    · simp only [daysBeforeYear] at *
      omega
    · simp only [daysBeforeYear] at *
      omega

theorem lt_yearOf_succ (n : Int) : n < daysBeforeYear (yearOf n + 1) := by
  unfold yearOf
  dsimp only
  split
  · simp only [daysBeforeYear] at *
    omega
  · split
    · simp only [daysBeforeYear] at *
      omega
    · simp only [daysBeforeYear] at *
      omega

theorem yearLength (year : Int) :
    daysBeforeYear (year + 1) - daysBeforeYear year = if isLeap year then 366 else 365 := by
  have leap : isLeap year = true ↔ year % 4 = 0 ∧ (year % 100 ≠ 0 ∨ year % 400 = 0) := by
    simp [isLeap]
  simp only [leap, daysBeforeYear]
  split <;> omega

end Date

end MapLayer
