import MapLayer.Proofs.Calendar.Unbounded
import MapLayer.Proofs.DateMath.Period

/-!
Operations on a calendar without ends, and the instants on their way. Main statement: operations have a value
exactly if every instant on their way is in range, and it is the last of them.
-/

namespace MapLayer.DateMath

open Instant

def TimeUnit.first (u : TimeUnit) (k : Int) : Instant := atSecond (u.opening k) 0

def TimeUnit.last (u : TimeUnit) (k : Int) : Instant := atSecond (u.opening (k + 1) - 1) 999000000

def moved (t : Instant) (amount : Int) : TimeUnit → Instant
  | .second => t.secondsLater amount
  | .minute => t.secondsLater (amount * 60)
  | .hour => t.secondsLater (amount * 3600)
  | .day => t.secondsLater (amount * 86400)
  | .week => t.secondsLater (amount * 604800)
  | .month => t.monthsLater amount
  | .year => t.monthsLater (amount * 12)

namespace Operation

def result (up : Bool) (t : Instant) : Operation → Instant
  | shift amount u => moved t amount u
  | round u => if up then u.last (u.period t.seconds) else u.first (u.period t.seconds)

/-- The instants in between. The way up to the end of a unit leads over its start and that of the next. -/
def via (up : Bool) (t : Instant) : Operation → List Instant
  | shift .. => []
  | round u => if up then [u.first (u.period t.seconds), u.first (u.period t.seconds + 1)] else []

end Operation

def destination (up : Bool) (t : Instant) (ops : List Operation) : Instant :=
  ops.foldl (Operation.result up) t

/-- The instants that operations pass, with what each of them makes of the one before. -/
def route (up : Bool) (t : Instant) : List Operation → List Instant
  | [] => []
  | op :: ops => op.via up t ++ op.result up t :: route up (op.result up t) ops

section

variable {t r : Instant} {up : Bool}

theorem ofClock?_first (u : TimeUnit) (k : Int) : ofClock? (u.opening k) 0 = (u.first k).kept? :=
  ofClock?_eq_kept? _ _

theorem shift_eq_kept? (h : t.InCalendar) (amount : Int) (u : TimeUnit) :
    shift t amount u = (moved t amount u).kept? := by
  cases u with
  | month => exact addMonths?_eq_kept? t _
  | year => exact addMonths?_eq_kept? t _
  | _ => exact addSeconds?_eq_kept? h _

theorem round_down_eq_kept? (h : t.InCalendar) (u : TimeUnit) :
    round t u false = (u.first (u.period t.seconds)).kept? := by
  rw [← ofClock?_first, ← startOf_eq h]
  rfl

theorem round_up_eq_some (h : t.InCalendar) (u : TimeUnit) : round t u true = some r ↔
    (u.first (u.period t.seconds)).Kept ∧ (u.first (u.period t.seconds + 1)).Kept ∧
      (u.last (u.period t.seconds)).Kept ∧ r = u.last (u.period t.seconds) := by
  constructor
  · intro rounded
    obtain ⟨start, next, begun, follows, last⟩ := round_up_inv h rounded
    rw [ofClock?_first] at begun follows
    rw [ofClock?_eq_kept?] at last
    exact ⟨(kept?_eq_some.1 begun).1, (kept?_eq_some.1 follows).1, kept?_eq_some.1 last⟩
  · rintro ⟨first, second, last⟩
    have begun : ofClock? (u.opening (u.period t.seconds)) 0 = some (u.first (u.period t.seconds)) := by
      rw [ofClock?_first]
      exact kept?_eq_some.2 ⟨first, rfl⟩
    have next : ofClock? (u.opening (u.period t.seconds + 1)) 0
        = some (u.first (u.period t.seconds + 1)) := by
      rw [ofClock?_first]
      exact kept?_eq_some.2 ⟨second, rfl⟩
    simp only [round, if_true, Option.bind_eq_bind, Option.bind_eq_some_iff, startOf_eq h]
    refine ⟨_, begun, _, (shift_opening begun 1).trans next, ?_⟩
    rw [previousMilli?_of_ofClock? next, ofClock?_eq_kept?]
    exact kept?_eq_some.2 last

/-- An operation has a result if nothing on the way to it, nor the result, is out of range. -/
theorem Operation.apply_eq_some (h : t.InCalendar) (op : Operation) : op.apply up t = some r ↔
    (∀ x ∈ op.via up t, x.Kept) ∧ (op.result up t).Kept ∧ r = op.result up t := by
  cases op with
  | shift amount u =>
    rw [Operation.apply, shift_eq_kept? h, kept?_eq_some]
    simp [Operation.via, Operation.result]
  | round u =>
    cases up with
    | false =>
      rw [Operation.apply, round_down_eq_kept? h, kept?_eq_some]
      simp [Operation.via, Operation.result]
    | true =>
      rw [Operation.apply, round_up_eq_some h]
      simp [Operation.via, Operation.result, and_assoc]

theorem second_moved_lt (h : t.second < secondsPerDay) (amount : Int) (u : TimeUnit) :
    (moved t amount u).second < secondsPerDay := by
  cases u with
  | month => exact h
  | year => exact h
  | _ => exact second_secondsLater_lt h _

theorem Operation.inCalendar_result (h : t.InCalendar) {op : Operation} (kept : (op.result up t).Kept) :
    (op.result up t).InCalendar := by
  refine ⟨kept, ?_⟩
  cases op with
  | shift amount u => exact second_moved_lt h.second_lt amount u
  | round u =>
    simp only [Operation.result]
    split
    · exact second_atSecond_lt _ _
    · exact second_atSecond_lt _ _

/-- Operations lead somewhere if no instant on their way is out of range, and then to the last one. -/
theorem run_eq_some (h : t.InCalendar) (ops : List Operation) : run up t ops = some r ↔
    (∀ x ∈ route up t ops, x.Kept) ∧ r = destination up t ops := by
  induction ops generalizing t with
  | nil => simp [run, route, destination, eq_comm]
  | cons op ops ih =>
    have first : run up t (op :: ops) = (op.apply up t).bind (run up · ops) := rfl
    have onwards : destination up t (op :: ops) = destination up (op.result up t) ops := rfl
    rw [first, Option.bind_eq_some_iff, onwards, route]
    simp only [Operation.apply_eq_some h, List.forall_mem_append, List.forall_mem_cons]
    constructor
    · rintro ⟨_, ⟨between, kept, rfl⟩, rest⟩
      obtain ⟨later, last⟩ := (ih (Operation.inCalendar_result h kept)).1 rest
      exact ⟨⟨between, kept, later⟩, last⟩
    · rintro ⟨⟨between, kept, later⟩, last⟩
      exact ⟨_, ⟨between, kept, rfl⟩, (ih (Operation.inCalendar_result h kept)).2 ⟨later, last⟩⟩

end

end MapLayer.DateMath
