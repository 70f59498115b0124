import MapLayer.Proofs.Context.Isolation

/-!
Who answers clicks and who was told not to. Main statement: whoever is registered is in the registry, or was
told to be removed, or was taken over by a later one of the same source, and only one of these; and only who
is in the registry is asked.
-/

namespace MapLayer

open scoped List

section entries

variable {α β : Type}

theorem insertEntry_perm (k : String) (v : α) {entries : List (String × α)} (h : Ordered entries) :
    (insertEntry k v entries).Perm ((k, v) :: entries.filter (·.1 != k)) := by
  induction entries with
  | nil => exact .refl _
  | cons e entries ih =>
    obtain ⟨first, rest⟩ := List.pairwise_cons.1 h
    obtain ⟨j, w⟩ := e
    -- entries behind a key that is not smaller are about other sources
    have others (above : ¬ j < k) : entries.filter (·.1 != k) = entries := by
      refine List.filter_eq_self.2 fun e he => ?_
      rw [bne_iff_ne]
      rintro rfl
      exact above (first e he)
    rw [insertEntry]
    split
    · rename_i below
      have other : j ≠ k := by
        rintro rfl
        exact String.lt_irrefl _ below
      rw [List.filter_cons_of_pos (by simpa using other), others (String.lt_asymm below)]
    · split
      · rename_i same
        subst same
        rw [List.filter_cons_of_neg (by simp), others (String.lt_irrefl _)]
      · rename_i other
        rw [List.filter_cons_of_pos (by simpa using Ne.symm other)]
        exact ((ih rest).cons _).trans (.swap ..)

theorem insertEntry_map (f : α → β) (k : String) (v : α) (entries : List (String × α)) :
    (insertEntry k v entries).map (Prod.map id f)
      = insertEntry k (f v) (entries.map (Prod.map id f)) := by
  induction entries with
  | nil => rfl
  | cons e entries ih =>
    obtain ⟨j, w⟩ := e
    simp only [insertEntry, List.map_cons, Prod.map_apply, id]
    split
    · rfl
    · split
      · rfl
      · rw [List.map_cons, ih]
        rfl

namespace Keyed

theorem values_put (m : Keyed α) (k : String) (v : α) :
    (m.values ++ [v]).Perm ((m.put k v).values ++ (m.get? k).toList) := by
  have own : (m.entries.filter (·.1 == k)).map (·.2) = (m.get? k).toList := by
    rw [filter_entries_key]
    cases m.get? k <;> rfl
  have apart : m.values ~ (m.get? k).toList ++ (m.entries.filter (·.1 != k)).map (·.2) := by
    rw [← own, ← List.map_append]
    exact (List.filter_append_perm _ _).symm.map _
  have written : (m.put k v).values ~ v :: (m.entries.filter (·.1 != k)).map (·.2) :=
    (insertEntry_perm k v m.ordered).map _
  generalize (m.entries.filter (·.1 != k)).map (·.2) = others at apart written
  calc m.values ++ [v]
    _ ~ (m.get? k).toList ++ others ++ [v] := apart.append_right _
    _ ~ [v] ++ ((m.get? k).toList ++ others) := List.perm_append_comm
    _ ~ [v] ++ (others ++ (m.get? k).toList) := List.perm_append_comm.append_left _
    _ ~ (m.put k v).values ++ (m.get? k).toList := written.symm.append_right _

end Keyed

end entries

namespace MapContext

variable {η ζ : Type}

namespace Step

def registered : Step η → List η
  | .register _ listener => [listener]
  | _ => []

def removes : Step η → String → Bool
  | .dispatch map, id => isGone map id
  | .teardownSource other, id => id == other
  | .teardown, _ => true
  | .check _, _ | .record .., _ | .arm, _ | .advance _, _ | .register .., _ => false

def reaches : Step η → String → Bool
  | .dispatch map, id => isTarget map id
  | .check _, _ | .record .., _ | .arm, _ | .advance _, _ | .register .., _ | .teardownSource _, _
  | .teardown, _ => false

/-- Whether a step puts someone in the place of who answers for a source. -/
def replaces : Step η → String → Bool
  | .register other _, id => id == other
  | .check _, _ | .record .., _ | .arm, _ | .advance _, _ | .dispatch _, _ | .teardownSource _, _
  | .teardown, _ => false

def map (f : η → ζ) : Step η → Step ζ
  | .check q => .check q
  | .record id moment => .record id moment
  | .arm => .arm
  | .advance millis => .advance millis
  | .register id listener => .register id (f listener)
  | .dispatch map => .dispatch map
  | .teardownSource id => .teardownSource id
  | .teardown => .teardown

def entries (s : Step η) (entries : List (String × η)) : List (String × η) :=
  match s with
  | .register id listener => insertEntry id listener entries
  | s => entries.filter fun e => !s.removes e.1

end Step

def picked (c : MapContext η) (p : String → Bool) : List η :=
  (c.listeners.entries.filter fun e => p e.1).map (·.2)

/-- Who is told in a step to be removed. -/
def told (c : MapContext η) : Step η → List η
  | .dispatch map => (c.dispatch map).removed
  | .teardownSource id => (c.teardownSource id).2.toList
  | .teardown => c.teardown.2
  | _ => []

/-- Whose place is taken in a step. -/
def overtaken (c : MapContext η) : Step η → List η
  | .register id _ => (c.listeners.get? id).toList
  | _ => []

def asked (c : MapContext η) : Step η → List η
  | .dispatch map => (c.dispatch map).asked
  | _ => []

section steps

variable (c : MapContext η) (s : Step η)

theorem entries_foldl_unregister (gone : List (String × η)) :
    (gone.foldl (fun c e => (c.unregister e.1).1) c).listeners.entries
      = c.listeners.entries.filter fun e => e.1 ∉ gone.map (·.1) := by
  induction gone generalizing c with
  | nil => simp
  | cons g gone ih =>
    rw [List.foldl_cons, ih]
    show (c.listeners.entries.filter (·.1 != g.1)).filter _ = _
    rw [List.filter_filter]
    refine List.filter_congr fun e _ => ?_
    rw [List.map_cons, Bool.eq_iff_iff]
    simp [not_or, and_comm]

theorem entries_dispatch (map : HostMap) : (c.dispatch map).context.listeners.entries
    = c.listeners.entries.filter fun e => !isGone map e.1 := by
  rw [dispatch, entries_foldl_unregister]
  refine List.filter_congr fun e he => ?_
  cases gone : isGone map e.1 with
  | true =>
    simpa using ⟨⟨e.2, he⟩, gone⟩
  | false => simp [gone]

theorem entries_step : (c.step s).listeners.entries = s.entries c.listeners.entries := by
  have kept : c.listeners.entries.filter (fun _ => true) = c.listeners.entries := by simp
  cases s with
  | check q => simp [step, Step.entries, Step.removes]
  | record id moment => exact kept.symm
  | arm => simp [step, Step.entries, Step.removes]
  | advance millis => exact kept.symm
  | register id listener => rfl
  | dispatch map => exact entries_dispatch c map
  | teardownSource id => rfl
  | teardown =>
    have none : c.listeners.entries.filter (fun _ => false) = [] := by simp
    exact none.symm

theorem picked_key (id : String) : c.picked (· == id) = (c.listeners.get? id).toList := by
  rw [picked, Keyed.filter_entries_key]
  cases c.listeners.get? id <;> rfl

theorem picked_none : c.picked (fun _ => false) = [] := by simp [picked]

theorem told_eq : c.told s = c.picked s.removes := by
  cases s with
  | dispatch map => rfl
  | teardownSource id => exact (picked_key c id).symm
  | teardown => simp [told, teardown, picked, Step.removes, Keyed.values]
  | _ => exact (picked_none c).symm

theorem asked_eq : c.asked s = c.picked s.reaches := by
  cases s with
  | dispatch map => rfl
  | _ => exact (picked_none c).symm

theorem overtaken_eq : c.overtaken s = c.picked s.replaces := by
  cases s with
  | register id listener => exact (picked_key c id).symm
  | _ => exact (picked_none c).symm

/-- What a step takes out of the registry was told or overtaken. -/
theorem values_step : (c.listeners.values ++ s.registered)
    ~ ((c.step s).listeners.values ++ (c.told s ++ c.overtaken s)) := by
  have left : (c.step s).listeners.values = (s.entries c.listeners.entries).map (·.2) :=
    congrArg _ (entries_step c s)
  -- a step that registers no one divides the registry
  have divided (none : s.registered = []) (calm : c.overtaken s = [])
      (rest : s.entries c.listeners.entries
        = c.listeners.entries.filter fun e => !s.removes e.1) :
      (c.listeners.values ++ s.registered)
        ~ ((c.step s).listeners.values ++ (c.told s ++ c.overtaken s)) := by
    rw [none, calm, List.append_nil, List.append_nil, left, rest, told_eq, picked, ← List.map_append]
    exact ((List.filter_append_perm _ _).symm.trans List.perm_append_comm).map _
  cases s with
  | register id listener => exact Keyed.values_put c.listeners id listener
  | check q => exact divided rfl rfl rfl
  | record id moment => exact divided rfl rfl rfl
  | arm => exact divided rfl rfl rfl
  | advance millis => exact divided rfl rfl rfl
  | dispatch map => exact divided rfl rfl rfl
  | teardownSource id => exact divided rfl rfl rfl
  | teardown => exact divided rfl rfl rfl

end steps

section runs

variable (c : MapContext η) (steps : List (Step η))

theorem values_run : (c.listeners.values ++ steps.flatMap Step.registered)
    ~ ((c.run steps).listeners.values ++ (c.observe told steps ++ c.observe overtaken steps)) := by
  induction steps generalizing c with
  | nil => simp [run, observe]
  | cons s steps ih =>
    have first := values_step c s
    have rest := ih (c.step s)
    rw [List.flatMap_cons, run_cons, observe, observe]
    -- as bags, so that the parts may change places
    simp only [← Multiset.coe_eq_coe, ← Multiset.coe_add] at first rest ⊢
    rw [← add_assoc, first, add_right_comm, rest]
    abel

end runs

/-- The run in which each registration is marked with the place of its step. -/
def marked (steps : List (Step η)) : List (Step (Nat × η)) :=
  steps.mapIdx fun place s => s.map (place, ·)

section marks

variable (f : η → ζ)

theorem marked_concat (steps : List (Step η)) (s : Step η) :
    marked (steps ++ [s]) = marked steps ++ [s.map (steps.length, ·)] :=
  List.mapIdx_concat

theorem map_marked (steps : List (Step η)) : (marked steps).map (Step.map Prod.snd) = steps := by
  induction steps using List.reverseRecOn with
  | nil => rfl
  | append_singleton steps s ih =>
    rw [marked_concat, List.map_append, ih]
    cases s <;> rfl

theorem nodup_marked (steps : List (Step η)) :
    ((marked steps).flatMap Step.registered).Nodup ∧
      ∀ r ∈ (marked steps).flatMap Step.registered, r.1 < steps.length := by
  induction steps using List.reverseRecOn with
  | nil => exact ⟨.nil, nofun⟩
  | append_singleton steps s ih =>
    obtain ⟨distinct, below⟩ := ih
    have last : ∀ r ∈ (s.map (steps.length, ·)).registered, r.1 = steps.length := by
      cases s with
      | register id listener => simp [Step.map, Step.registered]
      | _ => exact nofun
    rw [marked_concat, List.flatMap_append, List.flatMap_singleton, List.length_append,
      List.length_singleton]
    constructor
    · rw [List.nodup_append]
      refine ⟨distinct, ?_, ?_⟩
      · cases s <;> simp [Step.map, Step.registered]
      · rintro r hr _ hs rfl
        exact Nat.lt_irrefl _ (last r hs ▸ below r hr)
    · intro r hr
      rcases List.mem_append.1 hr with hr | hr
      · exact Nat.lt_succ_of_lt (below r hr)
      · exact last r hr ▸ Nat.lt_succ_self _

/-- Whether two registries hold the same but for another kind of listeners. -/
def Mirrors (c : MapContext η) (d : MapContext ζ) : Prop :=
  d.listeners.entries = c.listeners.entries.map (Prod.map id f)

variable {f} {c : MapContext η} {d : MapContext ζ}

theorem Mirrors.filter (h : Mirrors f c d) (p : String → Bool) :
    d.listeners.entries.filter (fun e => p e.1)
      = (c.listeners.entries.filter fun e => p e.1).map (Prod.map id f) := by
  rw [h, List.filter_map]
  rfl

theorem Mirrors.step (h : Mirrors f c d) (s : Step η) : Mirrors f (c.step s) (d.step (s.map f)) := by
  have kept := h.filter fun id => !s.removes id
  rw [Mirrors, entries_step, entries_step]
  cases s with
  | register id listener =>
    rw [h]
    exact (insertEntry_map f id listener _).symm
  | _ => exact kept

theorem Mirrors.picked (h : Mirrors f c d) (p : String → Bool) : d.picked p = (c.picked p).map f := by
  rw [MapContext.picked, MapContext.picked, h.filter, List.map_map, List.map_map]
  rfl

theorem Mirrors.told (h : Mirrors f c d) (s : Step η) : d.told (s.map f) = (c.told s).map f := by
  have same : (s.map f).removes = s.removes := by cases s <;> rfl
  rw [told_eq, told_eq, same, h.picked]

theorem Mirrors.asked (h : Mirrors f c d) (s : Step η) : d.asked (s.map f) = (c.asked s).map f := by
  have same : (s.map f).reaches = s.reaches := by cases s <;> rfl
  rw [asked_eq, asked_eq, same, h.picked]

theorem Mirrors.overtaken (h : Mirrors f c d) (s : Step η) :
    d.overtaken (s.map f) = (c.overtaken s).map f := by
  have same : (s.map f).replaces = s.replaces := by cases s <;> rfl
  rw [overtaken_eq, overtaken_eq, same, h.picked]

theorem Mirrors.run (h : Mirrors f c d) (steps : List (Step η)) :
    Mirrors f (c.run steps) (d.run (steps.map (Step.map f))) := by
  induction steps generalizing c d with
  | nil => exact h
  | cons s steps ih => exact ih (h.step s)

theorem Mirrors.observe (h : Mirrors f c d) {look : MapContext η → Step η → List η}
    {look' : MapContext ζ → Step ζ → List ζ}
    (own : ∀ {c d}, Mirrors f c d → ∀ s, look' d (s.map f) = (look c s).map f)
    (steps : List (Step η)) :
    d.observe look' (steps.map (Step.map f)) = (c.observe look steps).map f := by
  induction steps generalizing c d with
  | nil => rfl
  | cons s steps ih =>
    rw [List.map_cons, MapContext.observe, MapContext.observe, own h, ih (h.step s), List.map_append]

end marks

/-- What a registry says about who was registered before, who was told and whose place was taken. -/
structure AccountsFor (c : MapContext η) (registered told overtaken : List η) : Prop where
  balance : registered ~ c.listeners.values ++ (told ++ overtaken)
  /-- Who leaves without anyone in his place is told, and no one else. -/
  released : ∀ s, c.told s = c.picked fun id => !(c.step s).isRegistered id
  /-- Whoever does not leave stays, or loses his place to someone. -/
  stays : ∀ s, ∀ e ∈ c.listeners.entries, (c.step s).isRegistered e.1 = true →
    e ∈ (c.step s).listeners.entries ∨ ∃ listener, s = .register e.1 listener
  /-- Whoever is asked is in the registry, and stays there. -/
  asked : ∀ s, ∀ listener ∈ c.asked s, ∃ id,
    (id, listener) ∈ c.listeners.entries ∧ (id, listener) ∈ (c.step s).listeners.entries

section accounts

variable (c : MapContext η) (s : Step η)

theorem isRegistered_iff (id : String) :
    c.isRegistered id = true ↔ ∃ e ∈ c.listeners.entries, e.1 = id := by
  rw [isRegistered, Keyed.contains, Keyed.get?, List.lookup_isSome_iff]
  simp only [beq_iff_eq, @eq_comm _ id]

variable {c s} {e : String × η}

theorem mem_entries_step (he : e ∈ c.listeners.entries) (kept : s.removes e.1 = false) :
    e ∈ (c.step s).listeners.entries ∨ ∃ listener, s = .register e.1 listener := by
  rw [entries_step]
  cases s with
  | register id listener =>
    by_cases same : e.1 = id
    · exact .inr ⟨listener, by rw [same]⟩
    · left
      refine (insertEntry_perm id listener c.listeners.ordered).mem_iff.2 ?_
      exact List.mem_cons_of_mem _ (List.mem_filter.2 ⟨he, by simpa using same⟩)
  | _ => exact .inl (List.mem_filter.2 ⟨he, by rw [kept]; rfl⟩)

theorem isRegistered_step (he : e ∈ c.listeners.entries) :
    (c.step s).isRegistered e.1 = !s.removes e.1 := by
  cases removed : s.removes e.1 with
  | false =>
    rw [Bool.not_false, isRegistered_iff]
    obtain kept | ⟨listener, rfl⟩ := mem_entries_step he removed
    · exact ⟨e, kept, rfl⟩
    · refine ⟨(e.1, listener), ?_, rfl⟩
      exact (insertEntry_perm _ _ c.listeners.ordered).mem_iff.2 List.mem_cons_self
  | true =>
    rw [Bool.not_true, Bool.eq_false_iff, ne_eq, isRegistered_iff]
    rintro ⟨other, left, same⟩
    rw [entries_step] at left
    cases s with
    | register id listener => cases removed
    | _ =>
      have stayed := (List.mem_filter.1 left).2
      rw [same, removed] at stayed
      cases stayed

end accounts

theorem accountsFor_run (start : MapContext η) (anew : start.listeners.values = [])
    (steps : List (Step η)) : AccountsFor (start.run steps) (steps.flatMap Step.registered)
      (start.observe told steps) (start.observe overtaken steps) := by
  generalize reached : start.run steps = c
  constructor
  case balance =>
    have balance := values_run start steps
    rwa [anew, List.nil_append, reached] at balance
  case released =>
    intro s
    rw [told_eq]
    refine congrArg (List.map Prod.snd) (List.filter_congr fun e he => ?_)
    simp only [isRegistered_step he, Bool.not_not]
  case stays =>
    intro s e he registered
    rw [isRegistered_step he, Bool.not_eq_true'] at registered
    exact mem_entries_step he registered
  case asked =>
    intro s listener among
    rw [asked_eq] at among
    obtain ⟨e, he, rfl⟩ := List.mem_map.1 among
    obtain ⟨there, reached⟩ := List.mem_filter.1 he
    refine ⟨e.1, there, ?_⟩
    cases s with
    | dispatch map =>
      -- a source that is reached is not gone
      have kept : isGone map e.1 = false := by
        simp only [Step.reaches, isTarget, Bool.and_eq_true, beq_iff_eq] at reached
        simp [isGone, reached.1]
      obtain stays | ⟨_, other⟩ := mem_entries_step (s := .dispatch map) there kept
      · exact stays
      · cases other
    | _ => cases reached

/-- With marks each registration is one of its own, and without them the run is the same. -/
theorem accountsFor_marked (policy : RefreshPolicy) (hasTimer : Bool) (steps : List (Step η)) :
    let fresh : MapContext η := { policy, hasTimer }
    let own : MapContext (Nat × η) := { policy, hasTimer }
    AccountsFor (fresh.run steps) (steps.flatMap Step.registered) (fresh.observe told steps)
        (fresh.observe overtaken steps) ∧
      AccountsFor (own.run (marked steps)) ((marked steps).flatMap Step.registered)
        (own.observe told (marked steps)) (own.observe overtaken (marked steps)) ∧
      ((own.run (marked steps)).listeners.values
        ++ (own.observe told (marked steps) ++ own.observe overtaken (marked steps))).Nodup ∧
      Mirrors Prod.snd (own.run (marked steps)) (fresh.run steps) ∧
      fresh.observe told steps = (own.observe told (marked steps)).map Prod.snd ∧
      fresh.observe overtaken steps = (own.observe overtaken (marked steps)).map Prod.snd ∧
      fresh.observe asked steps = (own.observe asked (marked steps)).map Prod.snd := by
  intro fresh own
  have mirrored : Mirrors Prod.snd own fresh := rfl
  have run := mirrored.run (marked steps)
  have told := mirrored.observe Mirrors.told (marked steps)
  have overtaken := mirrored.observe Mirrors.overtaken (marked steps)
  have asked := mirrored.observe Mirrors.asked (marked steps)
  rw [map_marked] at run told overtaken asked
  have accounts := accountsFor_run own rfl (marked steps)
  refine ⟨accountsFor_run _ rfl steps, accounts, ?_, run, told, overtaken, asked⟩
  exact accounts.balance.nodup_iff.1 (nodup_marked steps).1

end MapContext

end MapLayer
