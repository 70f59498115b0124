import MapLayer.Proofs.Context.Refresh

/-!
Clicks on a map that sources have left. Main statement: a click forgets who answered for a source that is
gone, but not when the source was refreshed, so that a source of the same id is not new.
-/

namespace MapLayer

namespace MapContext

variable {η : Type} (c : MapContext η) (map : HostMap) {id : String}

theorem get?_foldl_unregister (gone : List (String × η)) (id : String) :
    (gone.foldl (fun c e => (c.unregister e.1).1) c).listeners.get? id
      = if id ∈ gone.map (·.1) then none else c.listeners.get? id := by
  induction gone generalizing c with
  | nil => rfl
  | cons e gone ih =>
    have first : (c.unregister e.1).1.listeners.get? id
        = if id = e.1 then none else c.listeners.get? id := Keyed.get?_erase _ _ _
    simp only [List.foldl_cons, ih, first, List.map_cons, List.mem_cons]
    by_cases here : id = e.1
    · simp only [here, true_or, if_true, ite_self]
    · simp only [here, false_or, if_false]

theorem get?_listeners_dispatch (id : String) :
    (c.dispatch map).context.listeners.get? id
      = if isGone map id = true then none else c.listeners.get? id := by
  rw [dispatch, get?_foldl_unregister]
  by_cases gone : isGone map id = true
  · rw [if_pos gone]
    split
    · rfl
    · rename_i away
      refine List.lookup_eq_none_iff.2 fun e he => ?_
      have other : id ≠ e.1 := by
        rintro rfl
        exact away (List.mem_map_of_mem (List.mem_filter.2 ⟨he, gone⟩))
      simpa using other
  · rw [if_neg gone, if_neg]
    intro among
    obtain ⟨e, he, rfl⟩ := List.mem_map.1 among
    exact gone (List.mem_filter.1 he).2

theorem isRegistered_dispatch (id : String) :
    (c.dispatch map).context.isRegistered id = (!isGone map id && c.isRegistered id) := by
  simp only [isRegistered, Keyed.contains, get?_listeners_dispatch]
  cases isGone map id <;> rfl

variable {c}

/-- A live check with the tiles loaded is a first refresh exactly if none is remembered. -/
theorem inspect_eq_first {q : Inspection} (live : q.descriptor.nrt = true)
    (loaded : q.loaded = true) :
    (c.inspect q).2 = .ok { stale := true } ↔ c.lastRefresh? q.id = none := by
  rw [inspect_live c q live, Except.ok.injEq]
  have answer := checkLive_answer c q.id q.loaded q.moment
  generalize (c.checkLive q.id q.loaded q.moment).1.lastRefresh? q.id = next,
    (c.checkLive q.id q.loaded q.moment).2 = verdict, c.lastRefresh? q.id = last? at answer ⊢
  cases answer with
  | loading _ away => simp [away] at loaded
  | first _ => simp
  | again _ _ _ => simp
  | early _ _ _ => simp

theorem dispatch_gone {map : HostMap} (gone : isGone map id = true) :
    (c.dispatch map).context.isRegistered id = false ∧
      (c.dispatch map).context.lastRefresh? id = c.lastRefresh? id ∧
      ∀ later : List (Step η), (∀ s ∈ later, s.leaves id) →
        ∀ q : Inspection, q.id = id → q.descriptor.nrt = true → q.loaded = true →
          ((((c.dispatch map).context.run later).inspect q).2 = .ok { stale := true }
            ↔ c.lastRefresh? id = none) := by
  refine ⟨?_, ?_, ?_⟩
  · rw [isRegistered_dispatch, gone]
    rfl
  · exact lastRefresh?_dispatch c id map
  · rintro later left q rfl live loaded
    rw [inspect_eq_first live loaded, lastRefresh?_run_of_leaves left, lastRefresh?_dispatch]

def emptyMap : HostMap :=
  { presence := fun _ => .absent, isDrawing := false, unproject := fun x y => (x, y) }

/-- A source that was never refreshed is new after it was gone. -/
theorem dispatch_gone_unrefreshed :
    let c := ({} : MapContext Unit).run [.check (liveCheck "a" false 0), .register "a" ()]
    let later := [.register "a" ()]
    c.isRegistered "a" = true ∧ (c.dispatch emptyMap).context.isRegistered "a" = false ∧
      (((c.dispatch emptyMap).context.run later).inspect (liveCheck "a" true 1000)).2
        = .ok { stale := true } := by
  intro c later
  have gone : isGone emptyMap "a" = true := rfl
  have left : ∀ s ∈ later, s.leaves "a" := by simp [later, Step.leaves]
  obtain ⟨unanswered, -, next⟩ := dispatch_gone (c := c) gone
  exact ⟨by decide, unanswered, (next later left _ rfl rfl rfl).2 (by decide)⟩

/-- A source that was refreshed a second ago is not. -/
theorem dispatch_gone_refreshed :
    let c := ({} : MapContext Unit).run [.check (liveCheck "a" true 0), .register "a" ()]
    let after := (c.dispatch emptyMap).context
    c.isRegistered "a" = true ∧ isGone emptyMap "a" = true ∧ after.isRegistered "a" = false ∧
      after.lastRefresh? "a" = some 0 ∧
      ((after.register "a" ()).inspect (liveCheck "a" true 1000)).2 = .ok { stale := false } := by
  decide +kernel

end MapContext

end MapLayer
