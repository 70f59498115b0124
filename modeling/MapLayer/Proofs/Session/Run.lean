import MapLayer.Proofs.Context.Cleanup
import MapLayer.Session

/-!
Runs of the sources of one map. Main statement: a listener stands under the id of the source that it
names, so that a source loses its filter only with its own listener.
-/

namespace MapLayer

namespace Keyed

theorem get?_of_mem {α : Type} {m : Keyed α} {k : String} {v : α} (h : (k, v) ∈ m.entries) :
    m.get? k = some v := by
  obtain ⟨entries, ordered⟩ := m
  induction entries with
  | nil => cases h
  | cons e entries ih =>
    obtain ⟨first, rest⟩ := List.pairwise_cons.1 ordered
    change (e :: entries).lookup k = some v
    rcases List.mem_cons.1 h with rfl | h
    · simp
    · have other : k ≠ e.1 := by
        rintro rfl
        exact String.lt_irrefl _ (first (e.1, v) h)
      rw [lookup_cons, if_neg other]
      exact ih rest h

end Keyed

namespace Session

variable {η : Type}

structure Call where
  place : Nat
  previous : Option String
  current : String
  loaded : Bool
  moment : Int

def ask (s : Session η) (q : Call) : Option (Session η × Outcome StaleCheck) :=
  s.isStale q.place q.previous q.current q.loaded q.moment

inductive Step (η : Type)
  | add (id : String) (descriptor : Descriptor)
  | isStale (q : Call)
  | register (id : String) (own : η)
  | click (map : HostMap)
  | teardownSource (id : String)
  | teardown

/-- Whether a source stays on its map: it is there at every click, and is not torn down. -/
def Step.keeps (id : String) : Step η → Prop
  | .click map => MapContext.isGone map id = false
  | .teardownSource other => other ≠ id
  | .teardown => False
  | .add .. | .isStale _ | .register .. => True

def step (s : Session η) : Step η → Session η
  | .add id descriptor => (s.addSource { id, descriptor }).1
  | .isStale q => ((s.ask q).map (·.1)).getD s
  | .register id own => { s with context := s.context.register id (.host own) }
  | .click map => (s.dispatch map).1
  | .teardownSource id => (s.teardownSource id).1
  | .teardown => s.teardown.1

def run (s : Session η) (steps : List (Step η)) : Session η := steps.foldl step s

@[simp] theorem run_cons (s : Session η) (x : Step η) (xs : List (Step η)) :
    s.run (x :: xs) = (s.step x).run xs := rfl

theorem run_concat (s : Session η) (xs : List (Step η)) (x : Step η) :
    s.run (xs ++ [x]) = (s.run xs).step x := List.foldl_concat ..

structure Answered extends Call where
  answer : Outcome StaleCheck

def answered? (s : Session η) : Step η → Option Answered
  | .isStale q => (s.ask q).map fun a => { q with answer := a.2 }
  | _ => none

def log (s : Session η) : List (Step η) → List Answered
  | [] => []
  | x :: xs => (s.answered? x).toList ++ (s.step x).log xs

theorem log_concat (s : Session η) (xs : List (Step η)) (x : Step η) :
    s.log (xs ++ [x]) = s.log xs ++ ((s.run xs).answered? x).toList := by
  induction xs generalizing s with
  | nil => simp [log, run]
  | cons y xs ih => simp [log, ih]

/-- Whether no call on the source at a place fails. -/
def Succeeds (s : Session η) (place : Nat) (steps : List (Step η)) : Prop :=
  ∀ a ∈ s.log steps, a.place = place → ∃ check, a.answer = .ok check

theorem succeeds_of_answers {s : Session η} {steps : List (Step η)} {checks : List StaleCheck}
    (h : (s.log steps).map (·.answer) = checks.map .ok) (place : Nat) : s.Succeeds place steps := by
  intro a ha _
  have among : a.answer ∈ checks.map .ok := h ▸ List.mem_map_of_mem ha
  obtain ⟨check, -, same⟩ := List.mem_map.1 among
  exact ⟨check, same.symm⟩

theorem cql_checkLive (c : MapContext η) (id : String) (loaded : Bool) (now : Int) :
    (c.checkLive id loaded now).2.cql = none := by
  have answer := c.checkLive_answer id loaded now
  generalize (c.checkLive id loaded now).1.lastRefresh? id = next, c.lastRefresh? id = last,
    (c.checkLive id loaded now).2 = verdict at answer ⊢
  cases answer <;> rfl

section sources

variable {sources : List LayerSource} {place : Nat}

theorem map_id_modify {f : LayerSource → LayerSource} (same : ∀ source, (f source).id = source.id) :
    (sources.modify place f).map (·.id) = sources.map (·.id) := by
  apply List.ext_getElem?
  intro i
  rw [List.getElem?_map, List.getElem?_map, List.getElem?_modify]
  cases sources[i]? with
  | none => rfl
  | some source => by_cases h : place = i <;> simp [h, same]

theorem id_sawCheck (source : LayerSource) (check : StaleCheck) :
    (source.sawCheck check).id = source.id := by
  unfold LayerSource.sawCheck
  split <;> rfl

theorem map_id_foldl_release (removed : List (Listener η)) :
    (removed.foldl release sources).map (·.id) = sources.map (·.id) := by
  induction removed generalizing sources with
  | nil => rfl
  | cons l removed ih =>
    rw [List.foldl_cons, ih]
    cases l with
    | host h => rfl
    | layer place => exact map_id_modify fun _ => rfl

/-- A source changes only when its own listener is removed. -/
theorem getElem?_foldl_release {removed : List (Listener η)} (h : .layer place ∉ removed) :
    (removed.foldl release sources)[place]? = sources[place]? := by
  induction removed generalizing sources with
  | nil => rfl
  | cons l removed ih =>
    rw [List.mem_cons, not_or] at h
    rw [List.foldl_cons, ih h.2]
    cases l with
    | host own => rfl
    | layer other =>
      have away : other ≠ place := by
        rintro rfl
        exact h.1 rfl
      simp [release, away]

end sources

section steps

variable {s : Session η} {q : Call} {place : Nat} {source : LayerSource}

/-- What a call does to a source and who answers for it. -/
theorem ask_eq (here : s.sources[q.place]? = some source) :
    ∃ after verdict, s.ask q = some (after, verdict) ∧
      after.context.listeners = (if s.context.isRegistered source.id then s.context
        else s.context.register source.id (.layer q.place)).listeners ∧
      (after.sources = match verdict with
        | .ok check => s.sources.modify q.place (·.sawCheck check)
        | .error _ => s.sources) ∧
      (source.descriptor.nrt = false → verdict = MapContext.compareUrls q.previous q.current) ∧
      (source.descriptor.nrt = true → ∃ check, verdict = .ok check ∧ check.cql = none) := by
  simp only [ask, isStale, here, Option.map_some]
  let asked : MapContext.Inspection :=
    ⟨source.id, source.descriptor, q.previous, q.current, q.loaded, q.moment⟩
  refine ⟨_, _, rfl, MapContext.listeners_inspect _ asked, rfl, ?_, ?_⟩
  · intro compared
    simp [MapContext.check, compared]
  · intro live
    simp [MapContext.check, live, cql_checkLive]

/-- A step changes no id of a source. -/
theorem ids_step (s : Session η) (x : Step η) :
    s.sources.map (·.id) <+: (s.step x).sources.map (·.id) := by
  cases x with
  | add id descriptor => simp [step, addSource]
  | isStale q =>
    cases here : s.sources[q.place]? with
    | none => simp [step, ask, isStale, here]
    | some source =>
      obtain ⟨after, verdict, asked, -, sources, -, -⟩ := ask_eq here
      simp only [step, asked, Option.map_some, Option.getD_some, sources]
      cases verdict with
      | error e => exact List.prefix_rfl
      | ok check => rw [map_id_modify fun source => id_sawCheck source check]
  | register id own => exact List.prefix_rfl
  | click map => exact (map_id_foldl_release _).symm ▸ List.prefix_rfl
  | teardownSource id => exact (map_id_foldl_release _).symm ▸ List.prefix_rfl
  | teardown => exact (map_id_foldl_release _).symm ▸ List.prefix_rfl

/-- A listener that names a source was there before a step, or is put under the id of the source. -/
theorem layer_of_step {x : Step η} {id : String}
    (found : (s.step x).context.listeners.get? id = some (.layer place)) :
    s.context.listeners.get? id = some (.layer place) ∨ (s.sources.map (·.id))[place]? = some id := by
  cases x with
  | add other descriptor => exact .inl found
  | isStale q =>
    cases here : s.sources[q.place]? with
    | none => exact .inl (by simpa [step, ask, isStale, here] using found)
    | some source =>
      obtain ⟨after, verdict, asked, listeners, -, -, -⟩ := ask_eq here
      simp only [step, asked, Option.map_some, Option.getD_some] at found
      rw [listeners] at found
      split at found
      · exact .inl found
      · rw [MapContext.register, Keyed.get?_put] at found
        split at found
        · rename_i same
          cases found
          exact .inr (by simp [here, same])
        · exact .inl found
  | register other own =>
    simp only [step, MapContext.register, Keyed.get?_put] at found
    split at found
    · cases found
    · exact .inl found
  | click map =>
    simp only [step, dispatch, releaseAll, MapContext.get?_listeners_dispatch] at found
    split at found
    · cases found
    · exact .inl found
  | teardownSource other =>
    have found : (s.context.listeners.erase other).get? id = some (.layer place) := found
    rw [Keyed.get?_erase] at found
    split at found
    · cases found
    · exact .inl found
  | teardown => cases found

/-- The listeners name sources of the ids that they stand under. -/
def Placed (s : Session η) : Prop :=
  ∀ id place, s.context.listeners.get? id = some (.layer place) →
    (s.sources.map (·.id))[place]? = some id

theorem placed_step (h : s.Placed) (x : Step η) : (s.step x).Placed := by
  intro id place found
  obtain ⟨more, ids⟩ := s.ids_step x
  have there : (s.sources.map (·.id))[place]? = some id :=
    (layer_of_step found).elim (h id place) fun new => new
  rw [← ids, List.getElem?_append_left (List.getElem?_eq_some_iff.1 there).1, there]

theorem placed_run (h : s.Placed) (steps : List (Step η)) : (s.run steps).Placed := by
  induction steps generalizing s with
  | nil => exact h
  | cons x steps ih => exact ih (placed_step h x)

theorem not_mem_removed (h : s.Placed) (here : s.sources[place]? = some source) {map : HostMap}
    (there : MapContext.isGone map source.id = false) :
    .layer place ∉ (s.context.dispatch map).removed := by
  intro removed
  obtain ⟨⟨id, _⟩, he, rfl⟩ := List.mem_map.1 removed
  obtain ⟨listed, gone⟩ := List.mem_filter.1 he
  have named := h id place (Keyed.get?_of_mem listed)
  rw [List.getElem?_map, here] at named
  cases named
  simp [there] at gone

theorem getElem?_step (h : s.Placed) (here : s.sources[place]? = some source) {x : Step η}
    (kept : x.keeps source.id) (other : ∀ q, x = .isStale q → q.place ≠ place) :
    (s.step x).sources[place]? = some source := by
  cases x with
  | add id descriptor =>
    have within := (List.getElem?_eq_some_iff.1 here).1
    simp only [step, addSource]
    rw [List.getElem?_append_left within, here]
  | isStale q =>
    have away : q.place ≠ place := other q rfl
    cases asked : s.sources[q.place]? with
    | none => simpa [step, ask, isStale, asked] using here
    | some _ =>
      obtain ⟨after, verdict, asked, -, sources, -, -⟩ := ask_eq asked
      simp only [step, asked, Option.map_some, Option.getD_some, sources]
      cases verdict with
      | error e => exact here
      | ok check => simp [away, here]
  | register id own => exact here
  | click map =>
    exact (getElem?_foldl_release (not_mem_removed h here kept)).trans here
  | teardownSource id =>
    refine (getElem?_foldl_release ?_).trans here
    intro removed
    have named := h id place (Option.mem_toList.1 removed)
    rw [List.getElem?_map, here] at named
    cases named
    exact kept rfl
  | teardown => exact kept.elim

end steps

end Session

end MapLayer
