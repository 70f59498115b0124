import MapLayer.Proofs.Context.Registry
import MapLayer.Proofs.Session.Run

/-!
Clicks on the sources of one map. Main statement: a click asks who answers for the visible sources, once each
and in the order of their ids, and forgets who answers for those that are gone; repeated, it forgets no one
and asks the same.
-/

namespace MapLayer

namespace MapContext

variable {η : Type}

/-- Which sources of some kind are registered, in the order of their ids, and who answers for each. -/
structure Lists (c : MapContext η) (p : String → Prop) (ids : List String) (listeners : List η) :
    Prop where
  increasing : ids.Pairwise (· < ·)
  mem_iff : ∀ id, id ∈ ids ↔ c.isRegistered id = true ∧ p id
  answering : ids.map c.listeners.get? = listeners.map some

section dispatch

variable (c : MapContext η) (map : HostMap)

theorem lists_picked (p : String → Bool) : c.Lists (fun id => p id = true)
    ((c.listeners.entries.filter fun e => p e.1).map (·.1)) (c.picked p) where
  increasing := List.pairwise_map.2 (c.listeners.ordered.filter _)
  mem_iff id := by
    rw [isRegistered_iff]
    constructor
    · intro among
      obtain ⟨e, he, rfl⟩ := List.mem_map.1 among
      obtain ⟨listed, kind⟩ := List.mem_filter.1 he
      exact ⟨⟨e, listed, rfl⟩, kind⟩
    · rintro ⟨⟨e, listed, rfl⟩, kind⟩
      exact List.mem_map.2 ⟨e, List.mem_filter.2 ⟨listed, kind⟩, rfl⟩
  answering := by
    rw [picked, List.map_map, List.map_map]
    refine List.map_congr_left fun e he => ?_
    exact Keyed.get?_of_mem (List.mem_filter.1 he).1

theorem dispatch_again : (c.dispatch map).context.dispatch map
    = { context := (c.dispatch map).context, removed := [], asked := (c.dispatch map).asked } := by
  have left := entries_dispatch c map
  generalize (c.dispatch map).context = after at left ⊢
  have gone : after.listeners.entries.filter (fun e => isGone map e.1) = [] := by
    rw [left, List.filter_filter]
    simp
  have targets : after.listeners.entries.filter (fun e => isTarget map e.1)
      = c.listeners.entries.filter fun e => isTarget map e.1 := by
    rw [left, List.filter_filter]
    refine List.filter_congr fun e _ => ?_
    cases here : map.presence e.1 <;> simp [isTarget, isGone, here]
  simp only [dispatch, gone, targets, List.foldl_nil, List.map_nil]

end dispatch

namespace Step

/-- Whether a step has nothing to do with who answers clicks. -/
def IsQuiet : Step η → Prop
  | .check _ | .record .. | .arm | .advance _ => True
  | .register .. | .dispatch _ | .teardownSource _ | .teardown => False

end Step

theorem listeners_step_of_quiet (c : MapContext η) {x : Step η} (quiet : x.IsQuiet) :
    (c.step x).listeners = c.listeners := by
  cases x with
  | check q => exact listeners_inspect c q
  | record id moment => rfl
  | arm => exact listeners_armNudge c
  | advance millis => rfl
  | _ => exact quiet.elim

end MapContext

namespace Session

variable {η : Type} {s : Session η}

/-- The sessions that come about. The host may also put a source under other ids, and use the context for
all that clicks have nothing to do with. -/
inductive Reachable : Session η → Prop
  | start (policy : RefreshPolicy) (hasTimer : Bool) : Reachable { context := { policy, hasTimer } }
  | step {s : Session η} (h : Reachable s) (x : Step η) : Reachable (s.step x)
  | register {s : Session η} (h : Reachable s) (id : String) {place : Nat}
      (there : place < s.sources.length) :
      Reachable { s with context := s.context.register id (.layer place) }
  | apart {s : Session η} (h : Reachable s) {x : MapContext.Step (Listener η)} (quiet : x.IsQuiet) :
      Reachable { s with context := s.context.step x }

def Known (s : Session η) : Prop :=
  ∀ id place, s.context.listeners.get? id = some (.layer place) → place < s.sources.length

theorem Known.register (h : s.Known) (id : String) {place : Nat} (there : place < s.sources.length) :
    ({ s with context := s.context.register id (.layer place) } : Session η).Known := by
  intro other found listed
  simp only [MapContext.register, Keyed.get?_put] at listed
  split at listed
  · cases listed
    exact there
  · exact h other found listed

theorem length_foldl_release {sources : List LayerSource} (removed : List (Listener η)) :
    (removed.foldl release sources).length = sources.length := by
  have ids : ((removed.foldl release sources).map (·.id)).length = (sources.map (·.id)).length :=
    congrArg List.length (map_id_foldl_release removed)
  rwa [List.length_map, List.length_map] at ids

theorem known_step (h : s.Known) (x : Step η) : (s.step x).Known := by
  intro id place found
  have longer : s.sources.length ≤ (s.step x).sources.length := by
    simpa using (s.ids_step x).length_le
  rcases layer_of_step found with old | new
  · exact (h id place old).trans_le longer
  · have there : place < s.sources.length := by simpa using (List.getElem?_eq_some_iff.1 new).1
    exact there.trans_le longer

theorem Reachable.known (reached : s.Reachable) : s.Known := by
  induction reached with
  | start policy hasTimer =>
    intro id place found
    cases found
  | step _ x ih => exact known_step ih x
  | register _ id there ih => exact ih.register id there
  | apart _ quiet ih =>
    intro id place found
    rw [MapContext.listeners_step_of_quiet _ quiet] at found
    exact ih id place found

theorem map_some_filterMap {α β : Type} {f : α → Option β} {l : List α}
    (h : ∀ a ∈ l, (f a).isSome = true) : (l.filterMap f).map some = l.map f := by
  induction l with
  | nil => rfl
  | cons a l ih =>
    obtain ⟨first, rest⟩ := List.forall_mem_cons.1 h
    obtain ⟨b, hb⟩ := Option.isSome_iff_exists.1 first
    rw [List.filterMap_cons_some hb, List.map_cons, List.map_cons, ih rest, hb]

theorem dispatch_again (s : Session η) (map : HostMap) : (s.dispatch map).1.dispatch map
    = ((s.dispatch map).1, [], (s.dispatch map).2.2) := by
  simp only [dispatch, releaseAll, MapContext.dispatch_again, List.foldl_nil]

section clicks

variable (network : Network) (map : HostMap) (click : Click) (own : η → Outcome Tooltip)

theorem map_results (h : s.Known) : (s.results network map click own).map some
    = (s.dispatch map).2.2.map ((s.dispatch map).1.answer network map click own) := by
  refine map_some_filterMap fun listener asked => ?_
  cases listener with
  | host own => rfl
  | layer place =>
    obtain ⟨⟨id, _⟩, he, rfl⟩ := List.mem_map.1 asked
    have there := h id place (Keyed.get?_of_mem (List.mem_filter.1 he).1)
    rw [← length_foldl_release (s.context.dispatch map).removed] at there
    simpa [answer, dispatch, releaseAll] using there

/-- A click removes who answers for sources that are gone, in drawing mode as well, and asks who answers for
the visible ones, outside it. Everyone else stays registered, and the same click again removes no one and
asks the same. -/
theorem dispatch_spec (reached : s.Reachable) {after : Session η} {removed asked : List (Listener η)}
    (clicked : s.dispatch map = (after, removed, asked)) : ∃ gone targets : List String,
      s.context.Lists (fun id => map.presence id = .absent ∨ map.presence id = .orphaned) gone removed ∧
      s.context.Lists (fun id => map.presence id = .visible ∧ map.isDrawing = false) targets asked ∧
      (s.results network map click own).map some = asked.map (after.answer network map click own) ∧
      (∀ id, after.context.listeners.get? id
        = if map.presence id = .absent ∨ map.presence id = .orphaned then none
          else s.context.listeners.get? id) ∧
      after.dispatch map = (after, [], asked) := by
  have results := map_results network map click own reached.known
  have again := s.dispatch_again map
  rw [clicked] at results again
  cases clicked
  have gone := s.context.lists_picked (MapContext.isGone map)
  have targets := s.context.lists_picked (MapContext.isTarget map)
  simp only [MapContext.isGone, MapContext.isTarget, Bool.or_eq_true, Bool.and_eq_true, beq_iff_eq,
    Bool.not_eq_true'] at gone targets
  refine ⟨_, _, gone, targets, results, fun id => ?_, again⟩
  have left := s.context.get?_listeners_dispatch map id
  simp only [MapContext.isGone, Bool.or_eq_true, beq_iff_eq] at left
  exact left

end clicks

def mixedMap : HostMap where
  presence id := if id = "b" then .absent else if id = "c" then .hidden else .visible
  isDrawing := false
  unproject x y := (x, y)

/-- One source under two ids, of which one is gone, between listeners of the host's own. -/
theorem dispatch_spec_mixed :
    let network : Network := fun _ => .error "no connection"
    let click : Click := ⟨1, -1, 100, 100⟩
    let own : Nat → Outcome Tooltip := fun n => .error (.noData s!"{n}")
    let mines : Step Nat := .add "a" { sourceType := "", baseUrl := "", layer := "mines", name := "" }
    let before := ({} : Session Nat).run [mines, .register "d" 4, .register "c" 3]
    let twice := (before.context.register "b" (.layer 0)).register "a" (.layer 0)
    let s : Session Nat := { before with context := twice }
    let after := (s.dispatch mixedMap).1
    (s.Reachable ∧ s.dispatch mixedMap = (after, [.layer 0], [.layer 0, .host 4])) ∧
    ∃ gone targets : List String,
      s.context.Lists (fun id => mixedMap.presence id = .absent ∨ mixedMap.presence id = .orphaned)
        gone [.layer 0] ∧
      s.context.Lists (fun id => mixedMap.presence id = .visible ∧ mixedMap.isDrawing = false)
        targets [.layer 0, .host 4] ∧
      (s.results network mixedMap click own).map some
        = [.layer 0, .host 4].map (after.answer network mixedMap click own) ∧
      (∀ id, after.context.listeners.get? id
        = if mixedMap.presence id = .absent ∨ mixedMap.presence id = .orphaned then none
          else s.context.listeners.get? id) ∧
      after.dispatch mixedMap = (after, [], [.layer 0, .host 4]) := by
  intro network click own mines before twice s after
  have opened : before.Reachable :=
    (((Reachable.start {} true).step mines).step (.register "d" 4)).step (.register "c" 3)
  have there : 0 < before.sources.length := by decide
  have reached : s.Reachable := (opened.register "b" there).register "a" there
  have clicked : s.dispatch mixedMap = (after, [.layer 0], [.layer 0, .host 4]) :=
    Prod.ext rfl (by decide +kernel)
  exact ⟨⟨reached, clicked⟩, dispatch_spec network mixedMap click own reached clicked⟩

end Session

end MapLayer
