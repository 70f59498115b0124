import MapLayer.Proofs.Calendar.Clock
import MapLayer.Proofs.Calendar.Months

/-!
Instants on a calendar without a first and a last year, where adding always has a result. Main statement: what
has a result in range is that, and nothing else has one.
-/

namespace MapLayer.Instant

def Kept (t : Instant) : Prop := Date.inRange t.day = true

instance (t : Instant) : Decidable t.Kept := inferInstanceAs (Decidable (_ = true))

/-- The instant, unless it lies outside the years that dates may lie in. -/
def kept? (t : Instant) : Option Instant := if t.Kept then some t else none

theorem kept?_eq_some {t r : Instant} : t.kept? = some r ↔ t.Kept ∧ r = t := by
  rw [kept?]
  split
  · simp [*, eq_comm]
  · simp [*]

theorem Kept.bounds {t : Instant} (h : t.Kept) : -100000000 ≤ t.day ∧ t.day < 100000000 := by
  obtain ⟨low, high⟩ := Date.inRange_iff.1 h
  have first : Date.daysBeforeYear Date.minYear = -95746130 := by decide
  have last : Date.daysBeforeYear (Date.maxYear + 1) = 95745399 := by decide
  omega

/-- The instant at a second, counted from midnight of day 0. -/
def atSecond (s : Int) (nano : Nat) : Instant := ⟨s / 86400, (s % 86400).toNat, nano⟩

/-- The instant some seconds later. A leap second counts as the second before it when it is left forwards, and
as the second after it when it is left backwards. -/
def secondsLater (t : Instant) (n : Int) : Instant :=
  if n = 0 then t
  else if billion ≤ t.nano then
    atSecond (t.seconds + (if n < 0 then 1 else 0) + n) (t.nano - billion)
  else atSecond (t.seconds + n) t.nano

/-- The same time of day some months later, on the last day of the month if its own day does not exist. -/
def monthsLater (t : Instant) (n : Int) : Instant :=
  { t with day := ((Date.ofNumber t.day).addMonths n).number }

theorem ofClock?_eq_kept? (s : Int) (nano : Nat) : ofClock? s nano = (atSecond s nano).kept? := by
  rw [ofClock?, ofSeconds?_def, Int.zero_add]
  rfl

theorem second_atSecond_lt (s : Int) (nano : Nat) : (atSecond s nano).second < secondsPerDay := by
  change (s % 86400).toNat < 86400
  omega

theorem second_secondsLater_lt {t : Instant} (h : t.second < secondsPerDay) (n : Int) :
    (t.secondsLater n).second < secondsPerDay := by
  unfold secondsLater
  split
  · exact h
  · split
    · exact second_atSecond_lt _ _
    · exact second_atSecond_lt _ _

theorem addSeconds?_eq_kept? {t : Instant} (h : t.InCalendar) (n : Int) :
    t.addSeconds? n = (t.secondsLater n).kept? := by
  unfold addSeconds? secondsLater
  split
  · exact (if_pos h.inRange).symm
  · split
    · rw [ofSeconds?_eq, ofClock?_eq_kept?]
      simp only [seconds, Int.add_assoc]
    · rw [ofSeconds?_eq, ofClock?_eq_kept?]
      simp only [seconds, Int.add_assoc]

theorem addMonths?_eq_kept? (t : Instant) (n : Int) : t.addMonths? n = (t.monthsLater n).kept? := by
  have valid := Date.isValid_addMonths (Date.isValid_ofNumber t.day) n
  rw [addMonths?, Date.number?_eq valid, kept?]
  change _ = if Date.inRange ((Date.ofNumber t.day).addMonths n).number = true then _ else _
  split <;> rfl

end MapLayer.Instant
