import MapLayer.Proofs.Context.Run

/-!
The nudges that a map waits for. Main statement: in every run a nudge that waits is the one that is held on
to, so that there is at most one, and what a step does to it depends on the time that is left alone.
-/

namespace MapLayer

namespace Nudge

theorem filterMap_left?_waiting (left : Nat) (nudges : List Nudge) :
    (waiting left :: nudges).filterMap left? = left :: nudges.filterMap left? := rfl

theorem filterMap_left?_advance (millis : Nat) (nudges : List Nudge) :
    (nudges.map (advance millis)).filterMap left?
      = ((nudges.filterMap left?).filter (millis < ·)).map (· - millis) := by
  induction nudges with
  | nil => rfl
  | cons n nudges ih =>
    cases n with
    | waiting left =>
      by_cases due : left ≤ millis
      · rw [List.map_cons, advance, if_pos due, List.filterMap_cons_none rfl, ih,
          filterMap_left?_waiting, List.filter_cons_of_neg (by simpa using due)]
      · rw [List.map_cons, advance, if_neg due, filterMap_left?_waiting, ih,
          filterMap_left?_waiting, List.filter_cons_of_pos (by simpa using due), List.map_cons]
    | sent => exact ih
    | cancelled => exact ih

theorem any_fallsDue (millis : Nat) (nudges : List Nudge) :
    nudges.any (fallsDue millis) = (nudges.filterMap left?).any (· ≤ millis) := by
  induction nudges with
  | nil => rfl
  | cons n nudges ih => cases n <;> simp [fallsDue, left?, ih]

theorem left?_eq_some {n : Nudge} {left : Nat} : n.left? = some left ↔ n = waiting left := by
  cases n <;> simp [left?]

/-- A list in which nothing waits but at one place. -/
theorem filterMap_left?_eq (nudges : List Nudge) (held : Option Nat)
    (only : ∀ place left, nudges[place]? = some (waiting left) → held = some place) :
    nudges.filterMap left? = ((held.bind (nudges[·]?)).bind left?).toList := by
  induction nudges generalizing held with
  | nil => cases held <;> rfl
  | cons n nudges ih =>
    have later (place left : Nat) (found : nudges[place]? = some (waiting left)) :
        held = some (place + 1) := only (place + 1) left found
    have first (left : Nat) (waits : n.left? = some left) : held = some 0 :=
      only 0 left (by simp [left?_eq_some.1 waits])
    -- the place is one less in the rest, which it may not reach
    cases held with
    | none =>
      have away : n.left? = none := Option.eq_none_iff_forall_ne_some.2 fun left waits =>
        nomatch first left waits
      rw [List.filterMap_cons_none away, ih none fun place left found =>
        nomatch later place left found]
      rfl
    | some place =>
      cases place with
      | zero =>
        have rest : nudges.filterMap left? = [] :=
          ih none fun place left found => nomatch later place left found
        cases waits : n.left? with
        | none => simp [List.filterMap_cons_none waits, rest, waits]
        | some left => simp [List.filterMap_cons_some waits, rest, waits]
      | succ place =>
        have away : n.left? = none := Option.eq_none_iff_forall_ne_some.2 fun left waits =>
          nomatch first left waits
        rw [List.filterMap_cons_none away, ih (some place) fun other left found => by
          cases later other left found
          rfl]
        rfl

end Nudge

namespace MapContext

variable {η : Type}

/-- The times that are left to the nudges that wait. -/
def awaited (c : MapContext η) : List Nat := c.nudges.filterMap Nudge.left?

/-- The times after which nudges fall due, if so much time is let pass. Each resets the bearing of the
map. -/
def resets (c : MapContext η) (millis : Nat) : List Nat := c.awaited.filter (· ≤ millis)

/-- Whether a nudge waits only if it is held on to. -/
def HoldsWaiting (c : MapContext η) : Prop :=
  ∀ place left, c.nudges[place]? = some (.waiting left) → c.held = some place

def Step.asks : Step η → Bool
  | .arm => true
  | .check q => q.descriptor.nrt
  | .record .. | .advance _ | .register .. | .dispatch _ | .teardownSource _ | .teardown => false

/-- What becomes of the times that are left in a step. -/
def Step.awaits (delay : Nat) (hasTimer : Bool) (awaited : List Nat) : Step η → List Nat
  | .advance millis => (awaited.filter (millis < ·)).map (· - millis)
  | .teardown => []
  | s => if s.asks && awaited.isEmpty && hasTimer then [delay] else awaited

section operations

variable {c : MapContext η} (h : c.HoldsWaiting)

theorem HoldsWaiting.of_eq {d : MapContext η} (h : c.HoldsWaiting) (nudges : d.nudges = c.nudges)
    (held : d.held = c.held) : d.HoldsWaiting := by
  intro place left found
  rw [nudges] at found
  exact held ▸ h place left found

include h in
theorem awaited_eq : c.awaited = (c.heldNudge?.bind Nudge.left?).toList :=
  Nudge.filterMap_left?_eq _ _ h

include h in
theorem nudgePending_eq : c.nudgePending = !c.awaited.isEmpty := by
  rw [awaited_eq h, nudgePending]
  cases c.heldNudge? with
  | none => rfl
  | some n => cases n <;> rfl

include h in
theorem length_awaited : c.awaited.length = if c.nudgePending then 1 else 0 := by
  rw [nudgePending_eq h, awaited_eq h]
  cases c.heldNudge?.bind Nudge.left? <;> rfl

theorem armNudge_of_pending (c : MapContext η) (pending : c.nudgePending = true) :
    c.armNudge = (c, false) := by
  simp [armNudge, pending]

theorem armNudge_answer (c : MapContext η) : c.armNudge.2 = (!c.nudgePending && c.hasTimer) := by
  rw [armNudge]
  cases c.nudgePending <;> cases c.hasTimer <;> rfl

include h in
theorem awaited_armNudge : c.armNudge.1.awaited
    = if c.armNudge.2 then [c.policy.nudgeDelay] else c.awaited := by
  rw [armNudge]
  split
  · rfl
  · rename_i free
    have none : c.awaited = [] := by
      have calm : c.nudgePending = false := by simp_all
      simpa [nudgePending_eq h] using calm
    rw [awaited] at none
    simp [awaited, none, Nudge.left?]

include h in
theorem holds_armNudge : c.armNudge.1.HoldsWaiting := by
  rw [armNudge]
  split
  · exact h
  · rename_i free
    intro place left found
    rcases List.getElem?_append .. ▸ found with found
    split at found
    · -- what waited before is held on to and so would be pending
      have held : c.heldNudge? = some (.waiting left) := by
        rw [heldNudge?, h place left found]
        exact found
      simp [nudgePending, held, Nudge.isWaiting, Nudge.left?] at free
    · rename_i beyond
      rw [List.getElem?_singleton] at found
      split at found
      · show some c.nudges.length = some place
        congr 1
        omega
      · cases found

theorem awaited_advance (c : MapContext η) (millis : Nat) : (c.advance millis).1.awaited
    = (c.awaited.filter (millis < ·)).map (· - millis) :=
  Nudge.filterMap_left?_advance millis c.nudges

theorem advance_answer (c : MapContext η) (millis : Nat) :
    (c.advance millis).2 = !(c.resets millis).isEmpty := by
  have due : (c.advance millis).2 = c.awaited.any (· ≤ millis) := Nudge.any_fallsDue millis c.nudges
  rw [due, resets, Bool.eq_iff_iff]
  simp [List.filter_eq_nil_iff]

include h in
theorem holds_advance (millis : Nat) : (c.advance millis).1.HoldsWaiting := by
  intro place left found
  rw [advance, List.getElem?_map, Option.map_eq_some_iff] at found
  obtain ⟨n, before, after⟩ := found
  cases n with
  | waiting left => exact h place left before
  | sent => cases after
  | cancelled => cases after

@[simp] theorem held_dropNudge (c : MapContext η) : c.dropNudge.held = none := by
  unfold dropNudge
  split
  · assumption
  · rfl

include h in
theorem holds_dropNudge : c.dropNudge.HoldsWaiting := by
  unfold dropNudge
  split
  · exact h
  · rename_i place held
    intro other left found
    rw [List.getElem?_modify, Option.map_eq_map, Option.map_eq_some_iff] at found
    obtain ⟨n, before, after⟩ := found
    by_cases same : place = other
    · rw [if_pos same] at after
      cases n <;> cases after
    · rw [if_neg same] at after
      subst after
      rw [h other left before] at held
      exact absurd (Option.some.inj held).symm same

include h in
theorem awaited_dropNudge : c.dropNudge.awaited = [] := by
  rw [awaited_eq (holds_dropNudge h), heldNudge?, held_dropNudge]
  rfl

end operations

section runs

variable {c : MapContext η} (h : c.HoldsWaiting)

theorem inspect_nudges (c : MapContext η) (q : Inspection) :
    (c.inspect q).1.nudges = (if q.descriptor.nrt then c.armNudge.1 else c).nudges ∧
      (c.inspect q).1.held = (if q.descriptor.nrt then c.armNudge.1 else c).held := by
  cases live : q.descriptor.nrt with
  | false => simp [inspect_compared, live]
  | true =>
    rw [inspect_live c q live]
    rcases checkLive_context c q.id q.loaded q.moment with same | same
    · simp [same]
    · simp [same, recordRefresh]

theorem dispatch_nudges (c : MapContext η) (map : HostMap) :
    (c.dispatch map).context.nudges = c.nudges ∧ (c.dispatch map).context.held = c.held := by
  obtain ⟨listeners, same⟩ := exists_dispatch c map
  simp [same]

include h in
theorem holds_step (s : Step η) : (c.step s).HoldsWaiting := by
  cases s with
  | check q =>
    obtain ⟨nudges, held⟩ := inspect_nudges c q
    split at nudges
    · rename_i live
      rw [if_pos live] at held
      exact (holds_armNudge h).of_eq nudges held
    · rename_i compared
      rw [if_neg compared] at held
      exact h.of_eq nudges held
  | record id moment => exact h.of_eq rfl rfl
  | arm => exact holds_armNudge h
  | advance millis => exact holds_advance h millis
  | register id listener => exact h.of_eq rfl rfl
  | dispatch map =>
    obtain ⟨nudges, held⟩ := dispatch_nudges c map
    exact h.of_eq nudges held
  | teardownSource id => exact h.of_eq rfl rfl
  | teardown => exact (holds_dropNudge h).of_eq rfl rfl

include h in
theorem holds_run (steps : List (Step η)) : (c.run steps).HoldsWaiting := by
  induction steps generalizing c with
  | nil => exact h
  | cons s steps ih => exact ih (holds_step h s)

theorem holds_new (policy : RefreshPolicy) (hasTimer : Bool) :
    ({ policy, hasTimer } : MapContext η).HoldsWaiting := nofun

include h in
theorem awaited_step (s : Step η) :
    (c.step s).awaited = s.awaits c.policy.nudgeDelay c.hasTimer c.awaited := by
  have armed : c.armNudge.1.awaited
      = if c.awaited.isEmpty && c.hasTimer then [c.policy.nudgeDelay] else c.awaited := by
    rw [awaited_armNudge h, armNudge_answer, nudgePending_eq h, Bool.not_not]
  cases s with
  | check q =>
    have same : (c.inspect q).1.awaited = (if q.descriptor.nrt then c.armNudge.1 else c).awaited :=
      congrArg (List.filterMap Nudge.left?) (inspect_nudges c q).1
    cases live : q.descriptor.nrt with
    | true => simpa [step, Step.awaits, Step.asks, live, same] using armed
    | false => simp [step, Step.awaits, Step.asks, live, same]
  | arm => simpa [step, Step.awaits, Step.asks] using armed
  | advance millis => exact awaited_advance c millis
  | dispatch map => exact congrArg (List.filterMap Nudge.left?) (dispatch_nudges c map).1
  | teardown => exact awaited_dropNudge h
  | record id moment => rfl
  | register id listener => rfl
  | teardownSource id => rfl

end runs

end MapContext

end MapLayer
