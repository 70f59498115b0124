import MapLayer.Proofs.Context.Cleanup

/-!
Sources that share a map. Main statement: what a run shows of one source depends on the steps about that
source and on the clicks alone, whatever is done with the others in between.
-/

namespace MapLayer

namespace Keyed

variable {α : Type}

theorem filter_entries_key (m : Keyed α) (k : String) :
    m.entries.filter (·.1 == k) = (m.get? k).toList.map (k, ·) := by
  obtain ⟨entries, ordered⟩ := m
  show entries.filter (·.1 == k) = (entries.lookup k).toList.map (k, ·)
  induction entries with
  | nil => rfl
  | cons e entries ih =>
    obtain ⟨first, rest⟩ := List.pairwise_cons.1 ordered
    obtain ⟨j, v⟩ := e
    rw [List.filter_cons, lookup_cons, ih rest]
    by_cases same : k = j
    · subst same
      simp [lookup_eq_none_of_lt first]
    · simp [same, Ne.symm same]

end Keyed

namespace MapContext

variable {η : Type}

def targets (c : MapContext η) (map : HostMap) : List (String × η) :=
  c.listeners.entries.filter fun e => isTarget map e.1

namespace Step

/-- The source that a step is about. Clicks, the timer and the end of the map are about none. -/
def subject? : Step η → Option String
  | .check q => some q.id
  | .record id _ | .register id _ | .teardownSource id => some id
  | .arm | .advance _ | .dispatch _ | .teardown => none

def isAbout (id : String) (s : Step η) : Bool := s.subject? == some id

def concerns (id : String) (s : Step η) : Bool := s.subject?.all (· == id)

theorem ne_of_concerns {id other : String} {s : Step η} (h : s.concerns id = false)
    (about : s.subject? = some other) : id ≠ other := by
  rintro rfl
  simp [concerns, about] at h

end Step

/-- Whether two contexts hold the same for one source. -/
structure AgreesOn (id : String) (c d : MapContext η) : Prop where
  policy : c.policy = d.policy
  refresh : c.lastRefresh? id = d.lastRefresh? id
  listener : c.listeners.get? id = d.listeners.get? id

@[simp] theorem listeners_advance (c : MapContext η) (millis : Nat) :
    (c.advance millis).1.listeners = c.listeners := rfl

section steps

variable {c d e : MapContext η} {id : String} {s : Step η}

theorem AgreesOn.refl (c : MapContext η) : c.AgreesOn id c := ⟨rfl, rfl, rfl⟩

theorem AgreesOn.symm (h : c.AgreesOn id d) : d.AgreesOn id c :=
  ⟨h.policy.symm, h.refresh.symm, h.listener.symm⟩

theorem AgreesOn.trans (h : c.AgreesOn id d) (g : d.AgreesOn id e) : c.AgreesOn id e :=
  ⟨h.policy.trans g.policy, h.refresh.trans g.refresh, h.listener.trans g.listener⟩

theorem AgreesOn.inspect {q : Inspection} (h : c.AgreesOn q.id d) :
    (c.inspect q).2 = (d.inspect q).2 ∧
      (c.inspect q).1.lastRefresh? q.id = (d.inspect q).1.lastRefresh? q.id := by
  cases live : q.descriptor.nrt with
  | false => simp [inspect_compared, live, h.refresh]
  | true =>
    simp only [inspect_live, live, checkLive, lastRefresh?_armNudge, policy_armNudge, h.policy,
      h.refresh]
    split
    · simp [h.refresh]
    · split
      · simp
      · split <;> simp [h.refresh]

theorem AgreesOn.step (h : c.AgreesOn id d) (s : Step η) : (c.step s).AgreesOn id (d.step s) := by
  constructor
  case policy => simp [h.policy]
  case refresh =>
    cases s with
    | check q =>
      by_cases same : q.id = id
      · subst same
        exact h.inspect.2
      · simp [MapContext.step, lastRefresh?_inspect_of_ne, Ne.symm same, h.refresh]
    | record other moment => simp [MapContext.step, h.refresh]
    | arm => simp [MapContext.step, h.refresh]
    | advance millis => simp [MapContext.step, h.refresh]
    | register other listener => exact h.refresh
    | dispatch map => simp [MapContext.step, h.refresh]
    | teardownSource other => simp [MapContext.step, h.refresh]
    | teardown => rfl
  case listener =>
    cases s with
    | check q => simp [MapContext.step, h.listener]
    | record other moment => exact h.listener
    | arm => simp [MapContext.step, h.listener]
    | advance millis => simp [MapContext.step, h.listener]
    | register other listener =>
      simp [MapContext.step, register, Keyed.get?_put, h.listener]
    | dispatch map => simp [MapContext.step, get?_listeners_dispatch, h.listener]
    | teardownSource other =>
      simp [MapContext.step, teardownSource, unregister, Keyed.get?_erase, h.listener]
    | teardown => rfl

theorem agreesOn_step (other : s.concerns id = false) : c.AgreesOn id (c.step s) := by
  cases s with
  | check q =>
    have ne : id ≠ q.id := Step.ne_of_concerns other rfl
    exact ⟨by simp, (lastRefresh?_inspect_of_ne c id q ne).symm, by simp [step]⟩
  | record k moment =>
    have ne : id ≠ k := Step.ne_of_concerns other rfl
    exact ⟨rfl, by simp [step, ne], rfl⟩
  | register k listener =>
    have ne : id ≠ k := Step.ne_of_concerns other rfl
    exact ⟨rfl, rfl, by simp [step, register, Keyed.get?_put, ne]⟩
  | teardownSource k =>
    have ne : id ≠ k := Step.ne_of_concerns other rfl
    exact ⟨rfl, by simp [step, ne],
      by simp [step, teardownSource, unregister, Keyed.get?_erase, ne]⟩
  | arm | advance _ | dispatch _ | teardown => cases other

end steps

def observe {α : Type} (look : MapContext η → Step η → List α) (c : MapContext η) :
    List (Step η) → List α
  | [] => []
  | s :: steps => look c s ++ (c.step s).observe look steps

/-- If what is looked at is that of one source, the steps about others may be left out. -/
theorem observe_concerning {α : Type} {look : MapContext η → Step η → List α} {id : String}
    (own : ∀ {c d : MapContext η} {s}, c.AgreesOn id d → s.concerns id = true → look c s = look d s)
    (silent : ∀ c {s}, s.concerns id = false → look c s = [])
    (steps : List (Step η)) {c d : MapContext η} (h : c.AgreesOn id d) :
    c.observe look steps = d.observe look (steps.filter (Step.concerns id)) := by
  induction steps generalizing c d with
  | nil => rfl
  | cons s steps ih =>
    cases about : s.concerns id with
    | true =>
      rw [List.filter_cons_of_pos about, observe, observe, own h about, ih (h.step s)]
    | false =>
      rw [List.filter_cons_of_neg (by simp [about]), observe, silent c about, List.nil_append,
        ih ((agreesOn_step about).symm.trans h)]

/-- The sources whose cached tiles were dropped, in order. -/
def reloads (c : MapContext η) (steps : List (Step η)) : List String :=
  ((c.log steps).filter Checked.reloads).map (·.id)

/-- The listeners that each click asks, with their sources. -/
def clicks (c : MapContext η) (steps : List (Step η)) : List (List (String × η)) :=
  c.observe (fun c s => match s with
    | .dispatch map => [c.targets map]
    | _ => []) steps

/-- What a context holds after each step that concerns a source. -/
def after {α : Type} (held : MapContext η → α) (id : String) (c : MapContext η)
    (steps : List (Step η)) : List α :=
  c.observe (fun c s => if s.concerns id then [held (c.step s)] else []) steps

/-- What a run shows of one source. -/
structure Share (η : Type) where
  answers : List Checked
  reloads : List String
  refreshes : List (Option Int)
  registered : List Bool
  clicks : List (List (String × η))

def share (c : MapContext η) (id : String) (steps : List (Step η)) : Share η where
  answers := (c.log steps).filter (·.id == id)
  reloads := (c.reloads steps).filter (· == id)
  refreshes := c.after (·.lastRefresh? id) id steps
  registered := c.after (·.isRegistered id) id steps
  clicks := (c.clicks steps).map (·.filter (·.1 == id))

section share

variable {c d : MapContext η} {id : String} (steps : List (Step η))

theorem filter_log (c : MapContext η) : (c.log steps).filter (·.id == id)
    = c.observe (fun c s => (c.checked? s).toList.filter (·.id == id)) steps := by
  induction steps generalizing c with
  | nil => rfl
  | cons s steps ih => simp [log, observe, ih]

theorem filter_reloads (c : MapContext η) : (c.reloads steps).filter (· == id)
    = (((c.log steps).filter (·.id == id)).filter Checked.reloads).map (·.id) := by
  simp [reloads, List.filter_map, List.filter_filter, Function.comp_def, Bool.and_comm]

theorem map_clicks (c : MapContext η) : (c.clicks steps).map (·.filter (·.1 == id))
    = c.observe (fun c s => match s with
        | .dispatch map => [(c.targets map).filter (·.1 == id)]
        | _ => []) steps := by
  induction steps generalizing c with
  | nil => rfl
  | cons s steps ih =>
    rw [clicks, observe, List.map_append, observe, ← ih]
    cases s <;> rfl

theorem after_concerning {α : Type} {held : MapContext η → α}
    (own : ∀ {c d : MapContext η}, c.AgreesOn id d → held c = held d) (h : c.AgreesOn id d) :
    c.after held id steps = d.after held id (steps.filter (Step.concerns id)) := by
  apply observe_concerning
  · intro c d s h about
    rw [if_pos about, if_pos about, own (h.step s)]
  · intro c s other
    simp [other]
  · exact h

theorem AgreesOn.targets (h : c.AgreesOn id d) (map : HostMap) :
    (c.targets map).filter (·.1 == id) = (d.targets map).filter (·.1 == id) := by
  have same (c : MapContext η) : (c.targets map).filter (·.1 == id)
      = ((c.listeners.get? id).toList.map (id, ·)).filter fun e => isTarget map e.1 := by
    rw [← Keyed.filter_entries_key, MapContext.targets, List.filter_filter, List.filter_filter]
    simp [Bool.and_comm]
  rw [same, same, h.listener]

theorem share_concerning (h : c.AgreesOn id d) :
    c.share id steps = d.share id (steps.filter (Step.concerns id)) := by
  have answers : (c.log steps).filter (·.id == id)
      = (d.log (steps.filter (Step.concerns id))).filter (·.id == id) := by
    rw [filter_log, filter_log]
    apply observe_concerning
    · intro c d s h about
      cases s with
      | check q =>
        obtain rfl : q.id = id := by simpa [Step.concerns, Step.subject?] using about
        simp [checked?, h.inspect.1]
      | _ => rfl
    · intro c s other
      cases s with
      | check q => simpa [checked?] using (Step.ne_of_concerns other rfl).symm
      | _ => rfl
    · exact h
  have clicks : (c.clicks steps).map (·.filter (·.1 == id))
      = (d.clicks (steps.filter (Step.concerns id))).map (·.filter (·.1 == id)) := by
    rw [map_clicks, map_clicks]
    apply observe_concerning
    · intro c d s h about
      cases s with
      | dispatch map => simp only [h.targets map]
      | _ => rfl
    · intro c s other
      cases s with
      | dispatch map => cases other
      | _ => rfl
    · exact h
  have registered {c d : MapContext η} (h : c.AgreesOn id d) :
      c.isRegistered id = d.isRegistered id := by
    simp [isRegistered, Keyed.contains, h.listener]
  rw [share, share, filter_reloads, filter_reloads, answers, clicks,
    after_concerning steps (·.refresh) h, after_concerning steps registered h]

end share

theorem filter_concerns_without {a b : String} (other : a ≠ b) (steps : List (Step η)) :
    (steps.filter fun s => !s.isAbout b).filter (Step.concerns a)
      = steps.filter (Step.concerns a) := by
  rw [List.filter_filter]
  apply List.filter_congr
  intro s _
  cases about : s.concerns a with
  | false => rfl
  | true =>
    have apart : s.isAbout b = false := by
      simp only [Step.concerns, Option.all_eq_true, beq_iff_eq] at about
      simp only [Step.isAbout, beq_eq_false_iff_ne]
      intro same
      exact other (about b same).symm
    simp [apart]

/-- Neither leaving out another source with all its steps, nor doing the steps of the others at other
times, changes what a run shows of a source. -/
theorem share_without {a b : String} (other : a ≠ b) (c : MapContext η) (steps : List (Step η)) :
    c.share a steps = (c.teardownSource b).1.share a (steps.filter fun s => !s.isAbout b) ∧
      ∀ id shuffled, shuffled.filter (Step.concerns id) = steps.filter (Step.concerns id) →
        c.share id shuffled = c.share id steps := by
  constructor
  · have absent : c.AgreesOn a (c.teardownSource b).1 := by
      apply agreesOn_step (s := .teardownSource b)
      simpa [Step.concerns, Step.subject?] using other.symm
    rw [share_concerning steps absent, ← filter_concerns_without other]
    exact (share_concerning _ (.refl _)).symm
  · intro id shuffled same
    rw [share_concerning shuffled (.refl c), share_concerning steps (.refl c), same]

def crowdedMap : HostMap :=
  { presence := fun _ => .visible, isDrawing := false, unproject := fun x y => (x, y) }

theorem share_without_neighbour :
    let own : List (Step Nat) := [.check (liveCheck "a" true 0), .register "a" 1,
      .dispatch crowdedMap, .check (liveCheck "a" true 10000)]
    let steps : List (Step Nat) := [.check (liveCheck "a" true 0), .register "b" 2, .record "b" 3,
      .register "a" 1, .check (liveCheck "b" true 10003), .dispatch crowdedMap, .teardownSource "b",
      .check (liveCheck "a" true 10000)]
    let shuffled : List (Step Nat) := [.register "b" 2, .record "b" 3,
      .check (liveCheck "b" true 10003), .check (liveCheck "a" true 0), .register "a" 1,
      .dispatch crowdedMap, .check (liveCheck "a" true 10000), .teardownSource "b"]
    let c : MapContext Nat := {}
    c.share "a" steps = c.share "a" own ∧ c.share "a" shuffled = c.share "a" steps ∧
      c.share "b" shuffled = c.share "b" steps ∧
      c.reloads steps = ["b", "a"] ∧ c.clicks steps = [[("a", 1), ("b", 2)]] ∧
      (c.share "a" own).reloads = ["a"] ∧ (c.share "a" own).clicks = [[("a", 1)]] ∧
      (c.share "a" own).refreshes = [some 0, some 0, some 0, some 10000] ∧
      (c.share "a" own).registered = [false, true, true, true] := by
  intro own steps shuffled c
  obtain ⟨without, mixed⟩ := share_without (a := "a") (b := "b") (by decide) c steps
  exact ⟨without, mixed "a" shuffled rfl, mixed "b" shuffled rfl, by decide, by decide, by decide,
    by decide, by decide, by decide⟩

end MapContext

end MapLayer
