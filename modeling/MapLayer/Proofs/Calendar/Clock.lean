import Mathlib
import MapLayer.Calendar.Instant

/-!
Instants by their second, counted from midnight of day 0, and their order. Main statement: outside leap
seconds an instant is no later than another exactly if it has no more nanoseconds behind it.
-/

namespace MapLayer.Instant

/-- An instant of the calendar, perhaps in a leap second. -/
structure InCalendar (t : Instant) : Prop where
  inRange : Date.inRange t.day = true
  second_lt : t.second < secondsPerDay

/-- An instant of the calendar outside leap seconds. -/
structure IsOrdinary (t : Instant) : Prop extends InCalendar t where
  nano_lt : t.nano < billion

/-- An instant of whole milliseconds outside leap seconds. -/
structure IsWhole (t : Instant) : Prop extends IsOrdinary t where
  whole : t.nano % 1000000 = 0

instance : LE Instant where
  le s t := s.day < t.day ∨ s.day = t.day ∧
    (s.second < t.second ∨ s.second = t.second ∧ s.nano ≤ t.nano)

theorem le_iff {s t : Instant} : s ≤ t ↔ s.day < t.day ∨ s.day = t.day ∧
    (s.second < t.second ∨ s.second = t.second ∧ s.nano ≤ t.nano) := Iff.rfl

protected theorem le_refl (t : Instant) : t ≤ t := .inr ⟨rfl, .inr ⟨rfl, Nat.le_refl _⟩⟩

def seconds (t : Instant) : Int := t.day * 86400 + t.second

def nanos (t : Instant) : Int := t.seconds * 1000000000 + t.nano

def ofClock? (seconds : Int) (nano : Nat) : Option Instant := ofSeconds? 0 seconds nano

theorem ofSeconds?_def (day s : Int) (nano : Nat) : ofSeconds? day s nano
    = if Date.inRange (day + s / 86400) then some ⟨day + s / 86400, (s % 86400).toNat, nano⟩
      else none := rfl

theorem ofSeconds?_eq_some {day s : Int} {nano : Nat} {t : Instant} :
    ofSeconds? day s nano = some t ↔
      t.InCalendar ∧ t.seconds = day * 86400 + s ∧ t.nano = nano := by
  have length : secondsPerDay = 86400 := rfl
  obtain ⟨d, second, n⟩ := t
  rw [ofSeconds?_def]
  constructor
  · intro found
    split at found
    · rename_i range
      cases found
      have bound : (s % 86400).toNat < secondsPerDay := by omega
      refine ⟨⟨range, bound⟩, ?_, rfl⟩
      simp only [seconds]
      omega
    · cases found
  · rintro ⟨⟨range, bound⟩, same, rfl⟩
    simp only [seconds] at same range bound
    have parts : day + s / 86400 = d ∧ (s % 86400).toNat = second := by omega
    rw [if_pos (by rwa [parts.1]), parts.1, parts.2]

theorem ofClock?_eq_some {s : Int} {nano : Nat} {t : Instant} :
    ofClock? s nano = some t ↔ t.InCalendar ∧ t.seconds = s ∧ t.nano = nano := by
  rw [ofClock?, ofSeconds?_eq_some, Int.zero_mul, Int.zero_add]

theorem isWhole_of_ofClock? {s : Int} {nano : Nat} {t : Instant} (below : nano < billion)
    (whole : nano % 1000000 = 0) (found : ofClock? s nano = some t) :
    t.IsWhole ∧ t.nanos = s * 1000000000 + nano := by
  obtain ⟨calendar, second, rfl⟩ := ofClock?_eq_some.1 found
  exact ⟨⟨⟨calendar, below⟩, whole⟩, by rw [nanos, second]⟩

theorem ofSeconds?_eq (day s : Int) (nano : Nat) :
    ofSeconds? day s nano = ofClock? (day * 86400 + s) nano := by
  ext t
  rw [ofSeconds?_eq_some, ofClock?_eq_some]

theorem InCalendar.ofClock? {t : Instant} (h : t.InCalendar) :
    Instant.ofClock? t.seconds t.nano = some t :=
  ofClock?_eq_some.2 ⟨h, rfl, rfl⟩

theorem addSeconds?_eq {t : Instant} (h : t.IsOrdinary) (n : Int) :
    t.addSeconds? n = Instant.ofClock? (t.seconds + n) t.nano := by
  have nano := h.nano_lt
  unfold addSeconds?
  split
  · rename_i none
    rw [none, Int.add_zero, h.ofClock?]
  · rw [if_neg (Nat.not_le_of_lt nano), ofSeconds?_eq]
    congr 1
    simp only [seconds]
    omega

theorem inCalendar_addSeconds? {s t : Instant} (h : s.InCalendar) {n : Int}
    (added : s.addSeconds? n = some t) : t.InCalendar := by
  unfold addSeconds? at added
  split at added
  · cases added
    exact h
  · split at added
    · exact (ofSeconds?_eq_some.1 added).1
    · exact (ofSeconds?_eq_some.1 added).1

theorem seconds_le_of_le {s t : Instant} (hs : s.InCalendar) (ht : t.InCalendar) (h : s ≤ t) :
    s.seconds ≤ t.seconds := by
  have length : secondsPerDay = 86400 := rfl
  have first := hs.second_lt
  have second := ht.second_lt
  rw [le_iff] at h
  simp only [seconds]
  omega

theorem le_iff_nanos_le {s t : Instant} (hs : s.IsOrdinary) (ht : t.IsOrdinary) :
    s ≤ t ↔ s.nanos ≤ t.nanos := by
  have lengths : secondsPerDay = 86400 ∧ billion = 1000000000 := ⟨rfl, rfl⟩
  have first := hs.second_lt
  have second := ht.second_lt
  have third := hs.nano_lt
  have fourth := ht.nano_lt
  rw [le_iff]
  simp only [nanos, seconds]
  omega

end MapLayer.Instant
