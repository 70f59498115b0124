import MapLayer.Proofs.Context.Nudge

/-!
What becomes of nudges. Main statement: a nudge that is scheduled resets the bearing of the map when the delay
has passed, or is cancelled by a teardown, or is pending, and until then no other one is scheduled.
-/

namespace MapLayer

inductive NudgeEvent
  | scheduled
  | sent
  | cancelled
deriving DecidableEq, Repr

structure DiaryEntry where
  moment : Nat
  event : NudgeEvent
deriving DecidableEq, Repr

def tally (event : NudgeEvent) (diary : List DiaryEntry) : Nat := (diary.map (·.event)).count event

@[simp] theorem tally_concat (event : NudgeEvent) (diary : List DiaryEntry) (e : DiaryEntry) :
    tally event (diary ++ [e]) = tally event diary + if e.event = event then 1 else 0 := by
  simp [tally, List.count_append, List.count_singleton]

/-- The diaries of nudges that fall due after some delay, with the moment at which the one that is pending
falls due. -/
inductive Balanced (delay : Nat) : Option Nat → List DiaryEntry → Prop
  | nil : Balanced delay none []
  | scheduled {diary : List DiaryEntry} (now : Nat) (h : Balanced delay none diary)
    (past : ∀ e ∈ diary, e.moment ≤ now) :
    Balanced delay (some (now + delay)) (diary ++ [⟨now, .scheduled⟩])
  | sent {diary : List DiaryEntry} {due : Nat} (h : Balanced delay (some due) diary) :
    Balanced delay none (diary ++ [⟨due, .sent⟩])
  | cancelled {diary : List DiaryEntry} {due : Nat} (now : Nat) (h : Balanced delay (some due) diary)
    (past : ∀ e ∈ diary, e.moment ≤ now) : Balanced delay none (diary ++ [⟨now, .cancelled⟩])

namespace Balanced

variable {delay : Nat} {due? : Option Nat} {diary : List DiaryEntry}

theorem exists_last {due : Nat} (h : Balanced delay (some due) diary) :
    ∃ before now, diary = before ++ [⟨now, .scheduled⟩] ∧ due = now + delay ∧
      Balanced delay none before ∧ ∀ e ∈ before, e.moment ≤ now := by
  cases h with
  | scheduled now h past => exact ⟨_, now, rfl, rfl, h, past⟩

theorem tally_scheduled (h : Balanced delay due? diary) :
    tally .scheduled diary
      = tally .sent diary + tally .cancelled diary + due?.toList.length := by
  induction h with
  | nil => rfl
  | scheduled now h past ih => simpa using ih
  | sent h ih =>
    simp only [tally_concat, Option.toList_some, List.length_singleton] at ih ⊢
    simp
    omega
  | cancelled now h past ih =>
    simp only [tally_concat, Option.toList_some, List.length_singleton] at ih ⊢
    simp
    omega

/-- A nudge is sent when the delay has passed since it was scheduled, with nothing in between. -/
theorem exists_scheduled (h : Balanced delay due? diary) {before : List DiaryEntry} {e : DiaryEntry}
    (within : before ++ [e] <+: diary) (sent : e.event = .sent) :
    ∃ a ∈ before.getLast?, a.event = .scheduled ∧ e.moment = a.moment + delay := by
  induction h with
  | nil => simp at within
  | scheduled now h past ih =>
    rcases List.prefix_concat_iff.1 within with whole | within
    · obtain ⟨-, rfl⟩ : before = _ ∧ e = _ := by simpa using whole
      cases sent
    · exact ih within
  | sent h ih =>
    rcases List.prefix_concat_iff.1 within with whole | within
    · obtain ⟨rfl, rfl⟩ : before = _ ∧ e = _ := by simpa using whole
      obtain ⟨earlier, now, rfl, rfl, -⟩ := h.exists_last
      exact ⟨⟨now, .scheduled⟩, by simp, rfl, rfl⟩
    · exact ih within
  | cancelled now h past ih =>
    rcases List.prefix_concat_iff.1 within with whole | within
    · obtain ⟨-, rfl⟩ : before = _ ∧ e = _ := by simpa using whole
      cases sent
    · exact ih within

theorem apart (h : Balanced delay due? diary) :
    (diary.filter (·.event = .sent)).Pairwise fun a b => a.moment + delay ≤ b.moment := by
  induction h with
  | nil => exact .nil
  | scheduled now h past ih => simpa using ih
  | sent h ih =>
    obtain ⟨before, now, rfl, rfl, -, past⟩ := h.exists_last
    rw [List.filter_append, List.pairwise_append]
    refine ⟨ih, List.pairwise_singleton .., ?_⟩
    intro a ha b hb
    obtain ⟨ha, sent⟩ := List.mem_filter.1 ha
    obtain rfl : b = ⟨now + delay, .sent⟩ := by simpa using hb
    -- what was sent earlier comes before this one was scheduled
    rcases List.mem_append.1 ha with ha | ha
    · exact Nat.add_le_add_right (past a ha) delay
    · obtain rfl := List.mem_singleton.1 ha
      cases of_decide_eq_true sent
  | cancelled now h past ih => simpa using ih

end Balanced

namespace MapContext

variable {η : Type}

def Step.millis : Step η → Nat
  | .advance millis => millis
  | _ => 0

def duration (steps : List (Step η)) : Nat := (steps.map Step.millis).sum

/-- What happens to nudges in a step that begins at some moment. -/
def happenings (c : MapContext η) (now : Nat) : Step η → List DiaryEntry
  | .advance millis => (c.resets millis).map fun left => ⟨now + left, .sent⟩
  | .teardown => if c.nudgePending then [⟨now, .cancelled⟩] else []
  | s => if s.asks && c.armNudge.2 then [⟨now, .scheduled⟩] else []

/-- What happens to nudges in a run that begins at some moment. -/
def diary (c : MapContext η) (now : Nat) : List (Step η) → List DiaryEntry
  | [] => []
  | s :: steps => c.happenings now s ++ (c.step s).diary (now + s.millis) steps

theorem diary_concat (c : MapContext η) (now : Nat) (steps : List (Step η)) (s : Step η) :
    c.diary now (steps ++ [s])
      = c.diary now steps ++ (c.run steps).happenings (now + duration steps) s := by
  induction steps generalizing c now with
  | nil => simp [diary, duration, run]
  | cons t steps ih => simp [diary, duration, ih, Nat.add_assoc]

def dueAt (c : MapContext η) (now : Nat) : Option Nat := c.awaited.head?.map (now + ·)

section diaries

variable {c : MapContext η} {now : Nat} {steps : List (Step η)}

theorem awaited_cases (h : c.HoldsWaiting) :
    c.nudgePending = false ∧ c.awaited = [] ∨ ∃ left, c.nudgePending = true ∧ c.awaited = [left] := by
  rw [nudgePending_eq h, awaited_eq h]
  cases c.heldNudge?.bind Nudge.left? with
  | none => exact .inl ⟨rfl, rfl⟩
  | some left => exact .inr ⟨left, rfl, rfl⟩

theorem moment_le_of_happenings {s : Step η} {e : DiaryEntry} (he : e ∈ c.happenings now s) :
    e.moment ≤ now + s.millis := by
  have brief {asked : Bool} {event : NudgeEvent} (he : e ∈ if asked then [⟨now, event⟩] else []) :
      e.moment ≤ now + s.millis := by
    split at he
    · obtain rfl := List.mem_singleton.1 he
      exact Nat.le_add_right now s.millis
    · cases he
  cases s with
  | advance millis =>
    obtain ⟨left, among, rfl⟩ := List.mem_map.1 he
    have due : left ≤ millis := by simpa using (List.mem_filter.1 among).2
    exact Nat.add_le_add_left due now
  | teardown => exact brief he
  | check q => exact brief he
  | arm => exact brief he
  | _ => cases he

section steps

variable {earlier : List DiaryEntry} (h : c.HoldsWaiting)
  (balanced : Balanced c.policy.nudgeDelay (c.dueAt now) earlier)

include h balanced

theorem balanced_advance (millis : Nat) :
    Balanced c.policy.nudgeDelay ((c.step (.advance millis)).dueAt (now + millis))
      (earlier ++ c.happenings now (.advance millis)) := by
  rw [dueAt, awaited_step h, happenings, resets]
  obtain ⟨-, none⟩ | ⟨left, -, one⟩ := awaited_cases h
  · rw [dueAt, none] at balanced
    simpa [none, Step.awaits] using balanced
  · rw [dueAt, one] at balanced
    by_cases due : left ≤ millis
    · simpa [one, Step.awaits, due, Nat.not_lt.2 due] using balanced.sent
    · have same : now + millis + (left - millis) = now + left := by omega
      simpa [one, Step.awaits, due, Nat.lt_of_not_le due, same] using balanced

theorem balanced_teardown (past : ∀ e ∈ earlier, e.moment ≤ now) :
    Balanced c.policy.nudgeDelay ((c.step .teardown).dueAt now)
      (earlier ++ c.happenings now .teardown) := by
  rw [dueAt, awaited_step h, happenings]
  obtain ⟨calm, none⟩ | ⟨left, pending, one⟩ := awaited_cases h
  · rw [dueAt, none] at balanced
    simpa [calm, Step.awaits] using balanced
  · rw [dueAt, one] at balanced
    rw [if_pos pending]
    exact balanced.cancelled now past

/-- A step that takes no time schedules a nudge, or does nothing with nudges. -/
theorem balanced_brief (past : ∀ e ∈ earlier, e.moment ≤ now) {s : Step η}
    (events : c.happenings now s = if s.asks && c.armNudge.2 then [⟨now, .scheduled⟩] else [])
    (left : (c.step s).awaited = if s.asks && c.awaited.isEmpty && c.hasTimer
      then [c.policy.nudgeDelay] else c.awaited) :
    Balanced c.policy.nudgeDelay ((c.step s).dueAt now) (earlier ++ c.happenings now s) := by
  rw [armNudge_answer, nudgePending_eq h, Bool.not_not, ← Bool.and_assoc] at events
  rw [events, dueAt, left]
  split
  · rename_i asked
    have free : c.awaited = [] := by simp_all
    rw [dueAt, free] at balanced
    exact .scheduled now balanced past
  · rw [List.append_nil]
    exact balanced

theorem balanced_step (past : ∀ e ∈ earlier, e.moment ≤ now) (s : Step η) :
    Balanced c.policy.nudgeDelay ((c.step s).dueAt (now + s.millis)) (earlier ++ c.happenings now s) ∧
      ∀ e ∈ earlier ++ c.happenings now s, e.moment ≤ now + s.millis := by
  constructor
  · have view := awaited_step h s
    cases s with
    | advance millis => exact balanced_advance h balanced millis
    | teardown => exact balanced_teardown h balanced past
    | check q => exact balanced_brief h balanced past rfl view
    | record id moment => exact balanced_brief h balanced past rfl view
    | arm => exact balanced_brief h balanced past rfl view
    | register id listener => exact balanced_brief h balanced past rfl view
    | dispatch map => exact balanced_brief h balanced past rfl view
    | teardownSource id => exact balanced_brief h balanced past rfl view
  · intro e he
    rcases List.mem_append.1 he with he | he
    · exact Nat.le_add_right_of_le (past e he)
    · exact moment_le_of_happenings he

end steps

theorem balanced_diary (h : c.HoldsWaiting) (calm : c.awaited = []) (now : Nat)
    (steps : List (Step η)) :
    Balanced c.policy.nudgeDelay ((c.run steps).dueAt (now + duration steps)) (c.diary now steps) ∧
      ∀ e ∈ c.diary now steps, e.moment ≤ now + duration steps := by
  induction steps using List.reverseRecOn with
  | nil =>
    refine ⟨?_, nofun⟩
    rw [run, List.foldl_nil, dueAt, calm]
    exact .nil
  | append_singleton steps s ih =>
    obtain ⟨balanced, past⟩ := ih
    have whole : now + duration (steps ++ [s]) = now + duration steps + s.millis := by
      simp [duration, Nat.add_assoc]
    rw [diary_concat, run_concat, whole, ← policy_run c steps]
    rw [← policy_run c steps] at balanced
    exact balanced_step (holds_run h steps) balanced past s

section states

variable (h : c.HoldsWaiting)

include h

theorem length_dueAt : (c.dueAt now).toList.length = if c.nudgePending then 1 else 0 := by
  rw [dueAt]
  obtain ⟨calm, none⟩ | ⟨left, pending, one⟩ := awaited_cases h
  · rw [none, calm]
    rfl
  · rw [one, pending]
    rfl

theorem length_resets (millis : Nat) :
    (c.resets millis).length = if (c.advance millis).2 then 1 else 0 := by
  rw [advance_answer, resets]
  obtain ⟨-, none⟩ | ⟨left, -, one⟩ := awaited_cases h
  · rw [none]
    rfl
  · rw [one]
    by_cases due : left ≤ millis <;> simp [due]

theorem exists_scheduled_of_waits {earlier : List DiaryEntry}
    (balanced : Balanced c.policy.nudgeDelay (c.dueAt now) earlier) {left : Nat}
    (waits : left ∈ c.awaited) : ∃ a ∈ earlier.getLast?,
      a.event = .scheduled ∧ now + left = a.moment + c.policy.nudgeDelay := by
  obtain ⟨-, none⟩ | ⟨other, -, one⟩ := awaited_cases h
  · rw [none] at waits
    cases waits
  · rw [one] at waits
    obtain rfl := List.mem_singleton.1 waits
    rw [dueAt, one] at balanced
    obtain ⟨before, start, rfl, due, -⟩ := balanced.exists_last
    exact ⟨⟨start, .scheduled⟩, by simp, rfl, due⟩

theorem unsent_of_unscheduled (unasked : tally .scheduled (c.teardown.1.diary now steps) = 0) :
    tally .sent (c.teardown.1.diary now steps) = 0 := by
  obtain ⟨balanced, -⟩ := balanced_diary (holds_step h .teardown : HoldsWaiting c.teardown.1)
    (awaited_dropNudge h) now steps
  rw [tally, List.count_eq_zero] at unasked ⊢
  intro sent
  obtain ⟨e, he, event⟩ := List.mem_map.1 sent
  obtain ⟨before, after, split⟩ := List.append_of_mem he
  have within : before ++ [e] <+: c.teardown.1.diary now steps := ⟨after, by simp [split]⟩
  obtain ⟨a, ha, scheduled, -⟩ := balanced.exists_scheduled within event
  refine unasked (List.mem_map.2 ⟨a, ?_, scheduled⟩)
  rw [split]
  exact List.mem_append_left _ (List.mem_of_getLast? ha)

end states

end diaries

/-- What a context and the diary of what happened to its nudges say about each other. -/
structure ConservesNudges (c : MapContext η) (now : Nat) (diary : List DiaryEntry) : Prop where
  /-- No more than one nudge waits. -/
  single : c.awaited.length = if c.nudgePending then 1 else 0
  balance : tally .scheduled diary
    = tally .sent diary + tally .cancelled diary + if c.nudgePending then 1 else 0
  punctual : ∀ before e, before ++ [e] <+: diary → e.event = .sent →
    ∃ a ∈ before.getLast?, a.event = .scheduled ∧ e.moment = a.moment + c.policy.nudgeDelay
  apart : (diary.filter (·.event = .sent)).Pairwise fun a b =>
    a.moment + c.policy.nudgeDelay ≤ b.moment
  /-- The nudge that waits was scheduled last, and will be sent when the delay has passed. -/
  pending : ∀ left ∈ c.awaited, ∃ a ∈ diary.getLast?,
    a.event = .scheduled ∧ now + left = a.moment + c.policy.nudgeDelay
  busy : c.nudgePending = true → c.armNudge = (c, false) ∧ ∀ q, (c.inspect q).1.nudges = c.nudges
  free : c.nudgePending = false → c.armNudge.2 = c.hasTimer
  /-- Time that is let pass resets the bearing as often as it answers. -/
  answered : ∀ millis, (c.resets millis).length = if (c.advance millis).2 then 1 else 0
  /-- After a teardown nothing is sent that was not scheduled since. -/
  quiet : ∀ later, tally .scheduled (c.teardown.1.diary now later) = 0 →
    tally .sent (c.teardown.1.diary now later) = 0

/-- Nudges are conserved in every run: what was scheduled was sent, was cancelled or is waited for. -/
theorem conservesNudges_run (policy : RefreshPolicy) (hasTimer : Bool) (steps : List (Step η)) :
    let fresh : MapContext η := { policy, hasTimer }
    ConservesNudges (fresh.run steps) (duration steps) (fresh.diary 0 steps) := by
  intro fresh
  have h : (fresh.run steps).HoldsWaiting := holds_run (holds_new policy hasTimer) steps
  obtain ⟨balanced, -⟩ := balanced_diary (holds_new policy hasTimer) rfl 0 steps
  rw [Nat.zero_add, ← policy_run fresh steps] at balanced
  generalize fresh.diary 0 steps = diary, fresh.run steps = c, duration steps = now at *
  constructor
  case single => exact length_awaited h
  case balance => rw [balanced.tally_scheduled, length_dueAt h]
  case punctual =>
    intro before e within sent
    exact balanced.exists_scheduled within sent
  case apart => exact balanced.apart
  case pending =>
    intro left waits
    exact exists_scheduled_of_waits h balanced waits
  case busy =>
    intro pending
    have refused := armNudge_of_pending c pending
    refine ⟨refused, fun q => ?_⟩
    rw [(inspect_nudges c q).1, refused, ite_self]
  case free =>
    intro calm
    rw [armNudge_answer, calm]
    rfl
  case answered => exact length_resets h
  case quiet =>
    intro later unasked
    exact unsent_of_unscheduled h unasked

example : ({ policy := { nudgeDelay := 10 } } : MapContext Unit).diary 0
      [.arm, .advance 4, .arm, .advance 7, .arm, .advance 3, .teardown, .advance 20]
    = [⟨0, .scheduled⟩, ⟨10, .sent⟩, ⟨11, .scheduled⟩, ⟨14, .cancelled⟩] := by
  decide

end MapContext

end MapLayer
