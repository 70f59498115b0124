import Mathlib
import MapLayer.Staleness

/-!
Runs of the context of one map. Main statements: a live check answers by the moment of the last refresh
alone, and a step that is not about a source leaves that moment as it is.
-/

namespace MapLayer

namespace MapContext

variable {η : Type}

structure Inspection where
  id : String
  descriptor : Descriptor
  previous : Option String
  current : String
  loaded : Bool
  moment : Int

def inspect (c : MapContext η) (q : Inspection) : MapContext η × Outcome StaleCheck :=
  c.check q.id q.descriptor q.previous q.current q.loaded q.moment

inductive Step (η : Type)
  | check (q : Inspection)
  | record (id : String) (moment : Int)
  | arm
  | advance (millis : Nat)
  | register (id : String) (listener : η)
  | dispatch (map : HostMap)
  | teardownSource (id : String)
  | teardown

namespace Step

def moment? : Step η → Option Int
  | .check q => some q.moment
  | _ => none

def forgets (id : String) : Step η → Prop
  | .teardownSource other => other = id
  | .teardown => True
  | _ => False

/-- Whether a step has nothing to do with the refreshes of a source. A click has not, if the source is
on the map. -/
def leaves (id : String) : Step η → Prop
  | .check q => q.id ≠ id
  | .record other _ => other ≠ id
  | .dispatch map => isGone map id = false
  | .teardownSource other => other ≠ id
  | .teardown => False
  | .arm | .advance _ | .register .. => True

end Step

def step (c : MapContext η) : Step η → MapContext η
  | .check q => (c.inspect q).1
  | .record id moment => c.recordRefresh id moment
  | .arm => c.armNudge.1
  | .advance millis => (c.advance millis).1
  | .register id listener => c.register id listener
  | .dispatch map => (c.dispatch map).context
  | .teardownSource id => (c.teardownSource id).1
  | .teardown => c.teardown.1

def run (c : MapContext η) (steps : List (Step η)) : MapContext η := steps.foldl step c

structure Checked extends Inspection where
  answer : Outcome StaleCheck

namespace Checked

def stale (a : Checked) : Bool :=
  match a.answer with
  | .ok verdict => verdict.stale
  | .error _ => false

def reloads (a : Checked) : Bool :=
  match a.answer with
  | .ok verdict => verdict.reloads
  | .error _ => false

/-- Whether a live source was found stale. -/
def refreshes (a : Checked) : Bool := a.descriptor.nrt && a.stale

end Checked

def checked? (c : MapContext η) : Step η → Option Checked
  | .check q => some { q with answer := (c.inspect q).2 }
  | _ => none

def log (c : MapContext η) : List (Step η) → List Checked
  | [] => []
  | s :: steps => (c.checked? s).toList ++ (c.step s).log steps

section runs

variable (c : MapContext η) (s : Step η) (xs ys : List (Step η))

@[simp] theorem run_cons : c.run (s :: xs) = (c.step s).run xs := rfl

theorem run_concat : c.run (xs ++ [s]) = (c.run xs).step s := List.foldl_concat ..

theorem log_append : c.log (xs ++ ys) = c.log xs ++ (c.run xs).log ys := by
  induction xs generalizing c with
  | nil => rfl
  | cons s xs ih => simp [log, ih]

theorem log_concat : c.log (xs ++ [s]) = c.log xs ++ ((c.run xs).checked? s).toList := by
  simp [log_append, log]

theorem moment_log : (c.log xs).map (·.moment) = xs.filterMap Step.moment? := by
  induction xs generalizing c with
  | nil => rfl
  | cons s xs ih =>
    have first : (c.checked? s).map (·.moment) = s.moment? := by cases s <;> rfl
    rw [log, List.map_append, ih, List.filterMap_cons, ← first]
    cases c.checked? s <;> rfl

end runs

section operations

variable (c : MapContext η) (id other : String) (now : Int)

theorem exists_armNudge :
    ∃ nudges held, c.armNudge.1 = { c with nudges := nudges, held := held } := by
  unfold armNudge
  split
  · exact ⟨c.nudges, c.held, rfl⟩
  · exact ⟨_, _, rfl⟩

theorem exists_dropNudge :
    ∃ nudges held, c.dropNudge = { c with nudges := nudges, held := held } := by
  unfold dropNudge
  split
  · exact ⟨c.nudges, c.held, rfl⟩
  · exact ⟨_, _, rfl⟩

@[simp] theorem policy_armNudge : c.armNudge.1.policy = c.policy := by
  obtain ⟨nudges, held, h⟩ := exists_armNudge c
  rw [h]

@[simp] theorem hasTimer_armNudge : c.armNudge.1.hasTimer = c.hasTimer := by
  obtain ⟨nudges, held, h⟩ := exists_armNudge c
  rw [h]

@[simp] theorem refreshes_armNudge : c.armNudge.1.refreshes = c.refreshes := by
  obtain ⟨nudges, held, h⟩ := exists_armNudge c
  rw [h]

@[simp] theorem lastRefresh?_armNudge : c.armNudge.1.lastRefresh? id = c.lastRefresh? id := by
  rw [lastRefresh?, refreshes_armNudge]
  rfl

@[simp] theorem listeners_armNudge : c.armNudge.1.listeners = c.listeners := by
  obtain ⟨nudges, held, h⟩ := exists_armNudge c
  rw [h]

@[simp] theorem policy_teardown : c.teardown.1.policy = c.policy := by
  obtain ⟨nudges, held, h⟩ := exists_dropNudge c
  rw [teardown, h]

@[simp] theorem hasTimer_teardown : c.teardown.1.hasTimer = c.hasTimer := by
  obtain ⟨nudges, held, h⟩ := exists_dropNudge c
  rw [teardown, h]

@[simp] theorem policy_recordRefresh : (c.recordRefresh id now).policy = c.policy := rfl

@[simp] theorem listeners_recordRefresh : (c.recordRefresh id now).listeners = c.listeners := rfl

@[simp] theorem lastRefresh?_recordRefresh :
    (c.recordRefresh other now).lastRefresh? id
      = if id = other then some now else c.lastRefresh? id :=
  Keyed.get?_put c.refreshes other id now

@[simp] theorem lastRefresh?_advance (millis : Nat) :
    (c.advance millis).1.lastRefresh? id = c.lastRefresh? id := rfl

@[simp] theorem lastRefresh?_teardownSource :
    (c.teardownSource other).1.lastRefresh? id
      = if id = other then none else c.lastRefresh? id :=
  Keyed.get?_erase c.refreshes other id

@[simp] theorem lastRefresh?_teardown : c.teardown.1.lastRefresh? id = none := rfl

theorem exists_dispatch (map : HostMap) :
    ∃ listeners, (c.dispatch map).context = { c with listeners := listeners } := by
  have folded (gone : List (String × η)) : ∃ listeners,
      gone.foldl (fun c e => (c.unregister e.1).1) c = { c with listeners := listeners } := by
    induction gone generalizing c with
    | nil => exact ⟨c.listeners, rfl⟩
    | cons e gone ih => exact ih (c.unregister e.1).1
  exact folded _

@[simp] theorem policy_dispatch (map : HostMap) : (c.dispatch map).context.policy = c.policy := by
  obtain ⟨listeners, h⟩ := exists_dispatch c map
  rw [h]

@[simp] theorem lastRefresh?_dispatch (map : HostMap) :
    (c.dispatch map).context.lastRefresh? id = c.lastRefresh? id := by
  obtain ⟨listeners, h⟩ := exists_dispatch c map
  rw [h]
  rfl

end operations

/-- What a live check answers and which moment of refresh it leaves behind, by the one it finds. -/
inductive LiveAnswer (policy : RefreshPolicy) (loaded : Bool) (now : Int) :
    Option Int → Option Int → StaleCheck → Prop
  | loading (last : Option Int) (h : loaded = false) :
    LiveAnswer policy loaded now last last { stale := false }
  | first (h : loaded = true) : LiveAnswer policy loaded now none (some now) { stale := true }
  | again (last : Int) (h : loaded = true) (due : isDue policy last now = true) :
    LiveAnswer policy loaded now (some last) (some now) { stale := true, reloads := true }
  | early (last : Int) (h : loaded = true) (early : isDue policy last now = false) :
    LiveAnswer policy loaded now (some last) (some last) { stale := false }

section checks

variable (c : MapContext η) (id : String) (loaded : Bool) (now : Int)

theorem checkLive_answer :
    LiveAnswer c.policy loaded now (c.lastRefresh? id)
      ((c.checkLive id loaded now).1.lastRefresh? id) (c.checkLive id loaded now).2 := by
  simp only [checkLive, lastRefresh?_armNudge, policy_armNudge]
  cases hl : loaded with
  | false => simpa using .loading (c.lastRefresh? id) rfl
  | true =>
    cases found : c.lastRefresh? id with
    | none => simpa using .first rfl
    | some last =>
      cases due : isDue c.policy last now with
      | true => simpa [due] using .again last rfl due
      | false => simpa [due, found] using .early last rfl due

/-- A live check does no more than to arm the nudge and to record a refresh. -/
theorem checkLive_context :
    (c.checkLive id loaded now).1 = c.armNudge.1 ∨
      (c.checkLive id loaded now).1 = c.armNudge.1.recordRefresh id now := by
  unfold checkLive
  dsimp only
  split
  · exact .inl rfl
  · split
    · exact .inr rfl
    · split
      · exact .inr rfl
      · exact .inl rfl

variable (q : Inspection)

theorem inspect_live (live : q.descriptor.nrt = true) :
    c.inspect q = ((c.checkLive q.id q.loaded q.moment).1,
      .ok (c.checkLive q.id q.loaded q.moment).2) := by
  simp [inspect, check, live]

theorem inspect_compared (compared : q.descriptor.nrt = false) :
    c.inspect q = (c, compareUrls q.previous q.current) := by
  simp [inspect, check, compared]

theorem inspect_context :
    (c.inspect q).1 = c ∨ (c.inspect q).1 = c.armNudge.1 ∨
      (c.inspect q).1 = c.armNudge.1.recordRefresh q.id q.moment := by
  cases live : q.descriptor.nrt with
  | true =>
    rw [inspect_live c q live]
    exact .inr (checkLive_context c q.id q.loaded q.moment)
  | false =>
    rw [inspect_compared c q live]
    exact .inl rfl

@[simp] theorem policy_inspect : (c.inspect q).1.policy = c.policy := by
  rcases inspect_context c q with h | h | h <;> simp [h]

@[simp] theorem listeners_inspect : (c.inspect q).1.listeners = c.listeners := by
  rcases inspect_context c q with h | h | h <;> simp [h]

theorem lastRefresh?_inspect_of_ne (h : id ≠ q.id) :
    (c.inspect q).1.lastRefresh? id = c.lastRefresh? id := by
  rcases inspect_context c q with same | same | same <;> simp [same, h]

theorem not_reloads_of_compareUrls {previous : Option String} {current : String}
    {verdict : StaleCheck} (h : compareUrls previous current = .ok verdict) :
    verdict.reloads = false := by
  cases previous with
  | none =>
    simp only [compareUrls, Except.ok.injEq] at h
    simp [← h]
  | some previous =>
    obtain ⟨_, -, h⟩ := Outcome.bind_eq_ok.1 h
    obtain ⟨_, -, h⟩ := Outcome.bind_eq_ok.1 h
    simp [← Outcome.pure_eq_ok.1 h]

@[simp] theorem policy_step (s : Step η) : (c.step s).policy = c.policy := by
  cases s with
  | check q => exact policy_inspect c q
  | record id now => rfl
  | arm => exact policy_armNudge c
  | advance millis => rfl
  | register id listener => rfl
  | dispatch map => exact policy_dispatch c map
  | teardownSource id => rfl
  | teardown => exact policy_teardown c

@[simp] theorem policy_run (steps : List (Step η)) : (c.run steps).policy = c.policy := by
  induction steps generalizing c with
  | nil => rfl
  | cons s steps ih => simp [ih]

variable {c id}

theorem lastRefresh?_step_of_forgets {s : Step η} (h : s.forgets id) :
    (c.step s).lastRefresh? id = none := by
  cases s with
  | teardownSource other => simp [step, show other = id from h]
  | teardown => exact lastRefresh?_teardown c id
  | _ => exact h.elim

theorem lastRefresh?_step_of_leaves {s : Step η} (h : s.leaves id) :
    (c.step s).lastRefresh? id = c.lastRefresh? id := by
  cases s with
  | check q => exact lastRefresh?_inspect_of_ne c id q (Ne.symm h)
  | record other now => simp [step, Ne.symm (show other ≠ id from h)]
  | arm => exact lastRefresh?_armNudge c id
  | advance millis => exact lastRefresh?_advance c id millis
  | register other listener => rfl
  | dispatch map => exact lastRefresh?_dispatch c id map
  | teardownSource other => simp [step, Ne.symm (show other ≠ id from h)]
  | teardown => exact h.elim

theorem lastRefresh?_run_of_leaves {steps : List (Step η)} (h : ∀ s ∈ steps, s.leaves id) :
    (c.run steps).lastRefresh? id = c.lastRefresh? id := by
  induction steps generalizing c with
  | nil => rfl
  | cons s steps ih =>
    obtain ⟨first, rest⟩ := List.forall_mem_cons.1 h
    rw [run_cons, ih rest, lastRefresh?_step_of_leaves first]

end checks

end MapContext

end MapLayer
