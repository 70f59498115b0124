import MapLayer.Proofs.DateMath.Language
import MapLayer.Proofs.DateMath.Period

/-!
The periods of a unit on the time line. Main statement: rounding down and up gives the two ends of a period,
and the periods follow one another without gap or overlap.
-/

namespace MapLayer.DateMath

open Instant

section

variable {u : TimeUnit} {s t lo hi : Instant}

theorem period_eq_of_between (ht : t.IsWhole) (down : round t u false = some lo)
    (up : round t u true = some hi) (hs : s.IsWhole) (after : lo ≤ s) (before : s ≤ hi) :
    u.period s.seconds = u.period t.seconds := by
  obtain ⟨low, begun⟩ := round_spec ht.toInCalendar down
  obtain ⟨high, ended⟩ := round_spec ht.toInCalendar up
  rw [le_iff_nanos_le low.toIsOrdinary hs.toIsOrdinary, begun] at after
  rw [le_iff_nanos_le hs.toIsOrdinary high.toIsOrdinary, ended] at before
  have nano : s.nano < 1000000000 := hs.nano_lt
  simp only [nanos, Bool.false_eq_true, if_false, if_true] at after before
  have started : u.opening (u.period t.seconds) ≤ s.seconds := by omega
  have unfinished : s.seconds < u.opening (u.period t.seconds + 1) := by omega
  rw [u.galois] at started
  rw [← not_le, u.galois] at unfinished
  omega

theorem between_of_round (ht : t.IsWhole) (down : round t u false = some lo)
    (up : round t u true = some hi) : lo ≤ t ∧ t ≤ hi := by
  obtain ⟨low, begun⟩ := round_spec ht.toInCalendar down
  obtain ⟨high, ended⟩ := round_spec ht.toInCalendar up
  rw [le_iff_nanos_le low.toIsOrdinary ht.toIsOrdinary, begun,
    le_iff_nanos_le ht.toIsOrdinary high.toIsOrdinary, ended]
  have started := u.opening_le t.seconds
  have unfinished := u.lt_opening_succ t.seconds
  have nano : t.nano < 1000000000 := ht.nano_lt
  have whole := ht.whole
  simp only [nanos, Bool.false_eq_true, if_false, if_true]
  omega

theorem round_start {k : Int} (start : ofClock? (u.opening k) 0 = some t) :
    round t u false = some t := by
  obtain ⟨calendar, second, -⟩ := ofClock?_eq_some.1 start
  change startOf t u = some t
  rw [startOf_eq calendar, second, u.period_opening, start]

end

/-- Rounding by a unit gives the two ends of the period that an instant lies in: they enclose it, are the
same for all that lies between them, and the next period starts a millisecond after. -/
theorem eval?_round_tiles {letter : Char} {u : TimeUnit} (named : TimeUnit.ofChar? letter = some u)
    {t lo hi : Instant} (ht : t.IsWhole) (down : eval? ("now/".push letter) t false = some lo)
    (up : eval? ("now/".push letter) t true = some hi) :
    lo ≤ t ∧ t ≤ hi ∧
    (∀ s : Instant, s.IsWhole → lo ≤ s → s ≤ hi →
      eval? ("now/".push letter) s false = some lo ∧ eval? ("now/".push letter) s true = some hi) ∧
    eval? ("now/".push letter) lo false = some lo ∧
    ∃ next : Instant, next.IsWhole ∧ next.nanos = hi.nanos + 1000000 ∧
      eval? ("now/".push letter) next false = some next := by
  simp only [eval?_round named] at down up ⊢
  obtain ⟨after, before⟩ := between_of_round ht down up
  refine ⟨after, before, ?_, ?_, ?_⟩
  · intro s hs first last
    have same := period_eq_of_between ht down up hs first last
    have alike := round_congr hs.toInCalendar ht.toInCalendar same
    rw [alike, alike]
    exact ⟨down, up⟩
  · have start := startOf_eq ht.toInCalendar u
    exact round_start (start.symm.trans down)
  · obtain ⟨-, next, -, follows, -⟩ := round_up_inv ht.toInCalendar up
    obtain ⟨-, ended⟩ := round_spec ht.toInCalendar up
    obtain ⟨whole, spot⟩ := isWhole_of_ofClock? (by decide) rfl follows
    refine ⟨next, whole, ?_, round_start follows⟩
    rw [ended, spot]
    simp

/-- The last day of 2024 lies in a week that ends in 2025. -/
theorem eval?_round_tiles_newYear :
    let t : Instant := ⟨Date.number ⟨2024, 12, 31⟩, 45045, 123000000⟩
    let lo := startOfDay (Date.number ⟨2024, 12, 30⟩)
    let hi : Instant := ⟨Date.number ⟨2025, 1, 5⟩, 86399, 999000000⟩
    (TimeUnit.ofChar? 'w' = some .week ∧ t.IsWhole ∧
      eval? "now/w" t false = some lo ∧ eval? "now/w" t true = some hi) ∧
    lo ≤ t ∧ t ≤ hi ∧
    (∀ s : Instant, s.IsWhole → lo ≤ s → s ≤ hi →
      eval? "now/w" s false = some lo ∧ eval? "now/w" s true = some hi) ∧
    eval? "now/w" lo false = some lo ∧
    ∃ next : Instant, next.IsWhole ∧ next.nanos = hi.nanos + 1000000 ∧
      eval? "now/w" next false = some next := by
  intro t lo hi
  have named : TimeUnit.ofChar? 'w' = some .week := rfl
  have whole : t.IsWhole := ⟨⟨⟨by decide, by decide⟩, by decide⟩, by decide⟩
  have down : eval? "now/w" t false = some lo := (eval?_round named t false).trans rfl
  have up : eval? "now/w" t true = some hi := (eval?_round named t true).trans (by decide +kernel)
  exact ⟨⟨named, whole, down, up⟩, eval?_round_tiles named whole down up⟩

end MapLayer.DateMath
