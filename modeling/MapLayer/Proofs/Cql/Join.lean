import MapLayer.Proofs.Cql.Classify

/-! Clauses that are joined to a filter. Main statements: clauses that are runs come apart again, each
taken for what it looks like, and one clause among others can be told from the filter. -/

namespace MapLayer.Cql

variable {fs gs : List CqlFragment} {f : CqlFragment} {filter : String}

theorem split_join (fs : List CqlFragment) : ((CqlFragment.join fs).map split).getD []
    = (runs (" AND ".toList.intercalate (fs.map (·.cql.toList)))).map classify := by
  cases fs with
  | nil => rfl
  | cons f fs =>
    rw [CqlFragment.join, Option.map_some, Option.getD_some, split, String.toList_intercalate,
      List.map_map]
    · rfl
    · nofun

/-- Clauses that are runs come apart from those behind them, whatever they are. -/
theorem split_join_append (enclosed : ∀ f ∈ fs, Enclosed f.cql.toList) (gs : List CqlFragment) :
    ((CqlFragment.join (fs ++ gs)).map split).getD []
      = fs.map (fun f => classify f.cql.toList) ++ ((CqlFragment.join gs).map split).getD [] := by
  have texts : ∀ t ∈ fs.map (·.cql.toList), Enclosed t := List.forall_mem_map.2 enclosed
  rw [split_join, split_join, List.map_append, runs_intercalate_append (by decide) texts,
    List.map_append, List.map_map]
  rfl

/-- Joined clauses come apart into the same texts, each taken for what it looks like. -/
theorem split_join_enclosed (enclosed : ∀ f ∈ fs, Enclosed f.cql.toList) :
    ((CqlFragment.join fs).map split).getD [] = fs.map fun f => classify f.cql.toList := by
  have apart := split_join_append enclosed []
  rw [List.append_nil] at apart
  exact apart.trans (List.append_nil _)

theorem split_of_join (enclosed : ∀ f ∈ fs, Enclosed f.cql.toList)
    (joined : CqlFragment.join fs = some filter) :
    split filter = fs.map fun f => classify f.cql.toList := by
  have apart := split_join_enclosed enclosed
  rwa [joined] at apart

theorem enclosed_of_mem_split {filter : Option String} (found : f ∈ (filter.map split).getD []) :
    Enclosed f.cql.toList := by
  cases filter with
  | none => cases found
  | some filter =>
    obtain ⟨run, hr, rfl⟩ := List.mem_map.1 found
    rw [classify_cql, String.toList_ofList]
    exact enclosed_of_mem_runs hr

theorem join_congr (same : fs.map (·.cql) = gs.map (·.cql)) :
    CqlFragment.join fs = CqlFragment.join gs := by
  cases fs with
  | nil =>
    obtain rfl : gs = [] := List.map_eq_nil_iff.1 same.symm
    rfl
  | cons f fs =>
    cases gs with
    | nil => cases same
    | cons g gs => exact congrArg (fun texts => some (" AND ".intercalate texts)) same

/-- Clauses that are joined to the same filter have the same texts. -/
theorem texts_eq_of_join (left : ∀ f ∈ fs, Enclosed f.cql.toList)
    (right : ∀ g ∈ gs, Enclosed g.cql.toList) (same : CqlFragment.join fs = CqlFragment.join gs) :
    fs.map (·.cql) = gs.map (·.cql) := by
  have apart {hs : List CqlFragment} (enclosed : ∀ h ∈ hs, Enclosed h.cql.toList) :
      (((CqlFragment.join hs).map split).getD []).map (·.cql) = hs.map (·.cql) := by
    rw [split_join_enclosed enclosed]
    simp [classify_cql]
  rw [← apart left, ← apart right, same]

theorem join_cons (f : CqlFragment) (fs : List CqlFragment) : CqlFragment.join (f :: fs)
    = some (((CqlFragment.join fs).map fun rest => f.cql ++ (" AND " ++ rest)).getD f.cql) := by
  cases fs with
  | nil => simp [CqlFragment.join]
  | cons g fs => simp [CqlFragment.join, String.append_assoc]

theorem length_marked (s t : String) : (s ++ (" AND " ++ t)).length = s.length + 5 + t.length := by
  have mark : " AND ".length = 5 := rfl
  rw [String.length_append, String.length_append, mark, Nat.add_assoc]

theorem join_append_left (fs : List CqlFragment) {gs hs : List CqlFragment} :
    CqlFragment.join (fs ++ gs) = CqlFragment.join (fs ++ hs) ↔
      CqlFragment.join gs = CqlFragment.join hs := by
  induction fs with
  | nil => rfl
  | cons f fs ih =>
    have marked (rest : String) : f.cql ++ (" AND " ++ rest) ≠ f.cql := by
      intro same
      have length := congrArg String.length same
      rw [length_marked] at length
      omega
    rw [← ih, List.cons_append, List.cons_append, join_cons, join_cons, Option.some_inj]
    refine ⟨fun same => ?_, fun same => by rw [same]⟩
    cases left : CqlFragment.join (fs ++ gs) with
    | none =>
      cases right : CqlFragment.join (fs ++ hs) with
      | none => rfl
      | some t =>
        rw [left, right] at same
        exact absurd same.symm (marked t)
    | some s =>
      cases right : CqlFragment.join (fs ++ hs) with
      | none =>
        rw [left, right] at same
        exact absurd same (marked s)
      | some t =>
        rw [left, right] at same
        exact congrArg some
          ((String.append_right_inj _).1 ((String.append_right_inj _).1 same))

theorem join_cons_ne (f : CqlFragment) (fs : List CqlFragment) :
    CqlFragment.join (f :: fs) ≠ CqlFragment.join fs := by
  intro same
  rw [join_cons] at same
  cases rest : CqlFragment.join fs with
  | none =>
    rw [rest] at same
    cases same
  | some t =>
    rw [rest] at same
    have length := congrArg String.length (Option.some.inj same)
    rw [Option.map_some, Option.getD_some, length_marked] at length
    omega

theorem join_optional {f g : Option CqlFragment} (rest : List CqlFragment) :
    CqlFragment.join (f.toList ++ rest) = CqlFragment.join (g.toList ++ rest) ↔
      f.map (·.cql) = g.map (·.cql) := by
  cases f with
  | none =>
    cases g with
    | none => exact ⟨fun _ => rfl, fun _ => rfl⟩
    | some g => exact ⟨fun same => absurd same.symm (join_cons_ne g rest), nofun⟩
  | some f =>
    cases g with
    | none => exact ⟨fun same => absurd same (join_cons_ne f rest), nofun⟩
    | some g =>
      show CqlFragment.join (f :: rest) = CqlFragment.join (g :: rest) ↔ some f.cql = some g.cql
      rw [join_cons, join_cons, Option.some_inj, Option.some_inj]
      cases CqlFragment.join rest with
      | none => rfl
      | some t => exact String.append_left_inj _

end MapLayer.Cql
