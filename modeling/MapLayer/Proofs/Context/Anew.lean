import MapLayer.Proofs.Context.Nudge
import MapLayer.Proofs.Context.Registry

/-!
Contexts that go on in the same way. Main statement: after a teardown whatever is done next shows the same as
on a context that is new.
-/

namespace MapLayer

namespace MapContext

variable {η : Type}

/-- What a step shows: its answer, what it does to the map and to the listeners, and what can be asked
after it. -/
structure Shown (η : Type) where
  verdict : Option (Outcome StaleCheck)
  answer : Option Bool
  resets : List Nat
  told : List η
  asked : List η
  refreshed : String → Option Int
  registered : String → Bool
  pending : Bool

def answer? (c : MapContext η) : Step η → Option Bool
  | .arm => some c.armNudge.2
  | .advance millis => some (c.advance millis).2
  | _ => none

def resetsIn (c : MapContext η) : Step η → List Nat
  | .advance millis => c.resets millis
  | _ => []

def shown (c : MapContext η) (s : Step η) : Shown η where
  verdict := (c.checked? s).map (·.answer)
  answer := c.answer? s
  resets := c.resetsIn s
  told := c.told s
  asked := c.asked s
  refreshed := (c.step s).lastRefresh?
  registered := (c.step s).isRegistered
  pending := (c.step s).nudgePending

def trace (c : MapContext η) (steps : List (Step η)) : List (Shown η) :=
  c.observe (fun c s => [c.shown s]) steps

/-- Whether two contexts hold the same for every source, and wait for the same. What became of the nudges
that are over does not matter. -/
structure SameAhead (c d : MapContext η) : Prop where
  agrees : ∀ id, c.AgreesOn id d
  hasTimer : c.hasTimer = d.hasTimer
  awaited : c.awaited = d.awaited
  holds : c.HoldsWaiting
  holds' : d.HoldsWaiting

section steps

variable {c d : MapContext η}

@[simp] theorem hasTimer_step (c : MapContext η) (s : Step η) : (c.step s).hasTimer = c.hasTimer := by
  cases s with
  | check q =>
    rcases inspect_context c q with same | same | same <;> simp [step, same, recordRefresh]
  | arm => exact hasTimer_armNudge c
  | dispatch map =>
    obtain ⟨listeners, same⟩ := exists_dispatch c map
    rw [step, same]
  | teardown => exact hasTimer_teardown c
  | record id moment => rfl
  | advance millis => rfl
  | register id listener => rfl
  | teardownSource id => rfl

@[simp] theorem hasTimer_run (c : MapContext η) (steps : List (Step η)) :
    (c.run steps).hasTimer = c.hasTimer := by
  induction steps generalizing c with
  | nil => rfl
  | cons s steps ih => simp [ih]

namespace SameAhead

variable (h : SameAhead c d)

include h in
theorem listeners : c.listeners = d.listeners := Keyed.ext fun id => (h.agrees id).listener

include h in
theorem policy : c.policy = d.policy := (h.agrees "").policy

include h in
theorem nudgePending : c.nudgePending = d.nudgePending := by
  rw [nudgePending_eq h.holds, nudgePending_eq h.holds', h.awaited]

include h in
theorem step (s : Step η) : SameAhead (c.step s) (d.step s) where
  agrees id := (h.agrees id).step s
  hasTimer := by rw [hasTimer_step, hasTimer_step, h.hasTimer]
  awaited := by
    rw [awaited_step h.holds, awaited_step h.holds', h.policy, h.hasTimer, h.awaited]
  holds := holds_step h.holds s
  holds' := holds_step h.holds' s

include h in
theorem shown (s : Step η) : c.shown s = d.shown s := by
  have picked (p : String → Bool) : c.picked p = d.picked p := by
    rw [MapContext.picked, h.listeners, MapContext.picked]
  have resets (millis : Nat) : c.resets millis = d.resets millis := by
    rw [MapContext.resets, h.awaited, MapContext.resets]
  have resetsIn : c.resetsIn s = d.resetsIn s := by
    cases s with
    | advance millis => exact resets millis
    | _ => rfl
  have answer : c.answer? s = d.answer? s := by
    cases s with
    | arm => rw [answer?, answer?, armNudge_answer, armNudge_answer, h.nudgePending, h.hasTimer]
    | advance millis => rw [answer?, answer?, advance_answer, advance_answer, resets]
    | _ => rfl
  have verdict : (c.checked? s).map (·.answer) = (d.checked? s).map (·.answer) := by
    cases s with
    | check q => exact congrArg some (h.agrees q.id).inspect.1
    | _ => rfl
  have next := h.step s
  have refreshed : (c.step s).lastRefresh? = (d.step s).lastRefresh? :=
    funext fun id => (next.agrees id).refresh
  have registered : (c.step s).isRegistered = (d.step s).isRegistered := by
    funext id
    rw [isRegistered, next.listeners, isRegistered]
  rw [MapContext.shown, MapContext.shown, told_eq, told_eq, asked_eq, asked_eq, picked, picked,
    verdict, answer, resetsIn, refreshed, registered, next.nudgePending]

include h in
theorem trace (steps : List (Step η)) : c.trace steps = d.trace steps := by
  induction steps generalizing c d with
  | nil => rfl
  | cons s steps ih =>
    rw [MapContext.trace, MapContext.trace, observe, observe, h.shown s]
    exact congrArg _ (ih (h.step s))

end SameAhead

theorem sameAhead_teardown (h : c.HoldsWaiting) :
    SameAhead c.teardown.1 { policy := c.policy, hasTimer := c.hasTimer } where
  agrees _ := ⟨policy_teardown c, rfl, rfl⟩
  hasTimer := hasTimer_teardown c
  awaited := awaited_dropNudge h
  holds := holds_step h .teardown
  holds' := holds_new c.policy c.hasTimer

end steps

/-- Whatever was done before, after a teardown each step shows what it would show on a new context. -/
theorem trace_teardown (policy : RefreshPolicy) (hasTimer : Bool) (earlier later : List (Step η)) :
    let fresh : MapContext η := { policy, hasTimer }
    (fresh.run earlier).teardown.1.trace later = fresh.trace later := by
  intro fresh
  have same := sameAhead_teardown (holds_run (holds_new policy hasTimer) earlier)
  rw [policy_run, hasTimer_run] at same
  exact same.trace later

end MapContext

end MapLayer
