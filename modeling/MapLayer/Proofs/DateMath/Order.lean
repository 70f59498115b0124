import MapLayer.Proofs.DateMath.Expression
import MapLayer.Proofs.DateMath.Period
import MapLayer.TimeWindow

/-!
Date expressions and the order of instants. Main statement: where shifts go by units that are always equally
long, a later now gives no earlier instant, and rounding up gives none that is earlier than rounding down.
-/

namespace MapLayer.DateMath

open Instant Text

/-- A rounding, or a shift by a unit that is always equally long. -/
def Operation.IsFixed : Operation → Prop
  | .shift _ unit => unit.length?.isSome = true
  | .round _ => True

/-- An expression that shifts by no months and no years. -/
def ShiftsByClock (expr : String) : Prop :=
  ∀ ops, steps? expr = some ops → ∀ op ∈ ops, op.IsFixed

/-- Instants in their order. One in a leap second is only compared with itself. -/
inductive Ordered : Instant → Instant → Prop
  | same {t : Instant} (calendar : t.InCalendar) : Ordered t t
  | earlier {s t : Instant} (hs : s.IsOrdinary) (ht : t.IsOrdinary) (le : s ≤ t) : Ordered s t

section

variable {s t s' t' : Instant} {up₁ up₂ : Bool}

theorem Ordered.le (h : Ordered s t) : s ≤ t := by
  cases h with
  | same => exact Instant.le_refl s
  | earlier _ _ le => exact le

theorem Ordered.inCalendar (h : Ordered s t) : s.InCalendar ∧ t.InCalendar := by
  cases h with
  | same calendar => exact ⟨calendar, calendar⟩
  | earlier hs ht => exact ⟨hs.toInCalendar, ht.toInCalendar⟩

theorem Ordered.shift (h : Ordered s t) {n : Int} (first : s.addSeconds? n = some s')
    (second : t.addSeconds? n = some t') : Ordered s' t' := by
  cases h with
  | same calendar =>
    obtain rfl := Option.some.inj (first.symm.trans second)
    exact .same (inCalendar_addSeconds? calendar first)
  | earlier hs ht le =>
    rw [addSeconds?_eq hs, ofClock?_eq_some] at first
    rw [addSeconds?_eq ht, ofClock?_eq_some] at second
    obtain ⟨calendar, seconds, nano⟩ := first
    obtain ⟨calendar', seconds', nano'⟩ := second
    have hs' : s'.IsOrdinary := ⟨calendar, nano ▸ hs.nano_lt⟩
    have ht' : t'.IsOrdinary := ⟨calendar', nano' ▸ ht.nano_lt⟩
    rw [le_iff_nanos_le hs ht] at le
    refine .earlier hs' ht' ((le_iff_nanos_le hs' ht').2 ?_)
    simp only [nanos, seconds, seconds', nano, nano'] at le ⊢
    omega

/-- The start of a period is before the end of it and of all later ones. -/
theorem Ordered.round (h : Ordered s t) (flags : ¬ (up₁ = true ∧ up₂ = false)) {u : TimeUnit}
    (first : DateMath.round s u up₁ = some s') (second : DateMath.round t u up₂ = some t') :
    Ordered s' t' := by
  obtain ⟨hs, ht⟩ := h.inCalendar
  have periods : u.period s.seconds ≤ u.period t.seconds :=
    u.galois.monotone_u (seconds_le_of_le hs ht h.le)
  have starts := u.strictMono_opening.monotone periods
  have ends := u.strictMono_opening.monotone (Int.add_le_add_right periods 1)
  -- a period lasts a second at least, so its last millisecond is not before its start
  have length := u.strictMono_opening (Int.lt_succ (u.period t.seconds))
  obtain ⟨low, begun⟩ := round_spec hs first
  obtain ⟨high, ended⟩ := round_spec ht second
  refine .earlier low.toIsOrdinary high.toIsOrdinary ?_
  rw [le_iff_nanos_le low.toIsOrdinary high.toIsOrdinary, begun, ended]
  cases up₁ with
  | false => cases up₂ with
    | false => simp; omega
    | true => simp; omega
  | true => cases up₂ with
    | false => exact absurd ⟨rfl, rfl⟩ flags
    | true => simp; omega

theorem Ordered.apply (h : Ordered s t) (flags : ¬ (up₁ = true ∧ up₂ = false)) {op : Operation}
    (fixed : op.IsFixed) (first : op.apply up₁ s = some s') (second : op.apply up₂ t = some t') :
    Ordered s' t' := by
  cases op with
  | shift amount unit =>
    obtain ⟨length, known⟩ := Option.isSome_iff_exists.1 fixed
    simp only [Operation.apply, shift_eq_addSeconds? known] at first second
    exact h.shift first second
  | round unit => exact h.round flags first second

theorem Ordered.run {ops : List Operation} (h : Ordered s t) (flags : ¬ (up₁ = true ∧ up₂ = false))
    (fixed : ∀ op ∈ ops, op.IsFixed) (first : DateMath.run up₁ s ops = some s')
    (second : DateMath.run up₂ t ops = some t') : Ordered s' t' := by
  induction ops generalizing s t with
  | nil =>
    cases first
    cases second
    exact h
  | cons op ops ih =>
    simp only [DateMath.run, List.foldlM_cons, Option.bind_eq_bind, Option.bind_eq_some_iff]
      at first second
    obtain ⟨s₁, one, first⟩ := first
    obtain ⟨t₁, other, second⟩ := second
    obtain ⟨step, steps⟩ := List.forall_mem_cons.1 fixed
    exact ih (h.apply flags step one other) steps first second

/-- An expression starts from now, or from the same instant whenever it is worked out. -/
theorem ordered_start? {now₁ now₂ : Instant} (h : Ordered now₁ now₂) {chars : List Char}
    (first : start? now₁ chars = some s) (second : start? now₂ chars = some t) : Ordered s t := by
  unfold start? at first second
  split at first
  · rename_i anchored
    rw [if_pos anchored] at second
    cases first
    cases second
    exact h
  · rename_i absolute
    rw [if_neg absolute] at second
    obtain rfl := Option.some.inj (first.symm.trans second)
    exact .same (inCalendar_of_absolute? first)

theorem ordered_eval? {expr : String} (clock : ShiftsByClock expr) {now₁ now₂ : Instant}
    (h : Ordered now₁ now₂) (flags : ¬ (up₁ = true ∧ up₂ = false))
    (first : eval? expr now₁ up₁ = some s) (second : eval? expr now₂ up₂ = some t) : Ordered s t := by
  obtain ⟨-, s₀, ops, start, steps, ran⟩ := eval?_eq_some.1 first
  obtain ⟨-, t₀, ops', start', steps', ran'⟩ := eval?_eq_some.1 second
  obtain rfl := Option.some.inj (steps.symm.trans steps')
  exact (ordered_start? h start start').run flags (clock ops steps) ran ran'

end

/-- A later now moves the value of an expression on, and rounding up gives no earlier instant than rounding
down. So neither end of a time range goes back, and a range between equal expressions is not reversed. -/
theorem eval?_le_eval? {expr : String} (clock : ShiftsByClock expr) {now₁ now₂ : Instant}
    (h₁ : now₁.IsOrdinary) (h₂ : now₂.IsOrdinary) (later : now₁ ≤ now₂) :
    (∀ up₁ up₂ : Bool, ¬ (up₁ = true ∧ up₂ = false) → ∀ a b, eval? expr now₁ up₁ = some a →
      eval? expr now₂ up₂ = some b → a ≤ b) ∧
    ∀ r : TimeRange,
      (r.start = expr → ∀ a b, r.lower? now₁ = some a → r.lower? now₂ = some b → a ≤ b) ∧
      (r.stop = expr → ∀ a b, r.upper? now₁ = some a → r.upper? now₂ = some b → a ≤ b) ∧
      (r.start = expr → r.stop = expr → ∀ a b, r.lower? now₁ = some a → r.upper? now₂ = some b →
        a ≤ b) := by
  have ordered := Ordered.earlier h₁ h₂ later
  have main (up₁ up₂ : Bool) (flags : ¬ (up₁ = true ∧ up₂ = false)) (a b : Instant)
      (first : eval? expr now₁ up₁ = some a) (second : eval? expr now₂ up₂ = some b) : a ≤ b :=
    (ordered_eval? clock ordered flags first second).le
  refine ⟨main, fun r => ⟨?_, ?_, ?_⟩⟩
  · rintro rfl a b first second
    exact main false false (by simp) a b first second
  · rintro rfl a b first second
    exact main true true (by simp) a b first second
  · rintro rfl same a b first second
    rw [TimeRange.upper?, same] at second
    exact main false true (by simp) a b first second

/-- Rounding to the month in between takes the two nows to different months. -/
theorem eval?_le_eval?_months :
    let expr := "now-1d/M+2h"
    let now₁ : Instant := ⟨Date.number ⟨2024, 2, 29⟩, 86399, 999999999⟩
    let now₂ : Instant := ⟨Date.number ⟨2024, 3, 2⟩, 0, 0⟩
    let a : Instant := ⟨Date.number ⟨2024, 2, 1⟩, 7200, 0⟩
    let b : Instant := ⟨Date.number ⟨2024, 4, 1⟩, 7199, 999000000⟩
    (ShiftsByClock expr ∧ now₁.IsOrdinary ∧ now₂.IsOrdinary ∧ now₁ ≤ now₂ ∧
      eval? expr now₁ false = some a ∧ eval? expr now₂ true = some b) ∧ a ≤ b := by
  intro expr now₁ now₂ a b
  have trimmed : trim expr.toList
      = ['n', 'o', 'w', '-', '1', 'd', '/', 'M', '+', '2', 'h'] := by decide
  have digits (d : Char) (digit : d.isDigit = true) : ∀ c ∈ [d], c.isDigit = true := by simpa
  have hour : operations? ['+', '2', 'h'] = some [.shift 2 .hour] := by
    have read := operations?_cons '+' (digits '2' rfl) (rfl : 'h'.isDigit = false) []
    exact read.trans (by rw [operations?_nil]; rfl)
  have month : operations? ['/', 'M', '+', '2', 'h'] = some [.round .month, .shift 2 .hour] := by
    have read := operations?_cons '/' (List.forall_mem_nil _) (rfl : 'M'.isDigit = false)
      ['+', '2', 'h']
    exact read.trans (by rw [hour]; rfl)
  have steps : steps? expr = some [.shift (-1) .day, .round .month, .shift 2 .hour] := by
    have read := operations?_cons '-' (digits '1' rfl) (rfl : 'd'.isDigit = false)
      ['/', 'M', '+', '2', 'h']
    rw [steps?, trimmed]
    exact read.trans (by rw [month]; rfl)
  have clock : ShiftsByClock expr := by
    intro ops found
    obtain rfl := Option.some.inj (steps.symm.trans found)
    simp [Operation.IsFixed, TimeUnit.length?]
  have h₁ : now₁.IsOrdinary := ⟨⟨by decide, by decide⟩, by decide⟩
  have h₂ : now₂.IsOrdinary := ⟨⟨by decide, by decide⟩, by decide⟩
  have later : now₁ ≤ now₂ := .inl (by decide)
  have start (now : Instant) : start? now (trim expr.toList) = some now := by
    rw [trimmed]
    rfl
  have first : eval? expr now₁ false = some a :=
    eval?_eq_some.2 ⟨by decide, now₁, _, start now₁, steps, by decide +kernel⟩
  have second : eval? expr now₂ true = some b :=
    eval?_eq_some.2 ⟨by decide, now₂, _, start now₂, steps, by decide +kernel⟩
  exact ⟨⟨clock, h₁, h₂, later, first, second⟩,
    (eval?_le_eval? clock h₁ h₂ later).1 false true (by simp) a b first second⟩

end MapLayer.DateMath
