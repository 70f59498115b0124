import MapLayer.Proofs.Filter.Clauses

/-!
What filters say about a column. Main statement: filters and entries about anything else make no difference,
and the clauses of filters are those of their entries in order, or the failure of the first entry that fails.
-/

namespace MapLayer

/-- A filter that is switched off or about something else than a column. -/
def FilterDescriptor.Irrelevant (column : String) (f : FilterDescriptor) : Prop :=
  f.about.disabled = true ∨
    f.about.key ≠ some column ∧ f.about.isMultiIndex = false ∧ f.about.kind ≠ some "custom"

/-- Filters, and the same ones with irrelevant filters among them. -/
inductive Padded (column : String) : List FilterDescriptor → List FilterDescriptor → Prop
  | nil : Padded column [] []
  | keep {fs gs : List FilterDescriptor} (f : FilterDescriptor) (rest : Padded column fs gs) :
    Padded column (f :: fs) (f :: gs)
  | add {fs gs : List FilterDescriptor} {f : FilterDescriptor} (irrelevant : f.Irrelevant column)
    (rest : Padded column fs gs) : Padded column fs (f :: gs)

/-- An entry limits the columns that it gives a shape for, and those that it gives a centre for. What else
stands beside a centre is the distance. -/
def Constrains (column : String) (statement : Json) : Prop :=
  ((statement.get? "geo_shape").bind (·.get? column)).isSome = true ∨
    column ≠ "distance" ∧ ((statement.get? "geo_distance").bind (·.get? column)).isSome = true

def GivesDistance (statement : Json) : Prop :=
  ((statement.get? "geo_distance").bind (·.get? "distance")).isSome = true

/-- The first of some entries whose predicate cannot be made out, and why. -/
def FirstFails (column : String) (es : List (Bool × Json)) (e : Failure) : Prop :=
  ∃ before x after, es = before ++ x :: after ∧
    (∀ y ∈ before, ∃ p, SpatialPredicate.classify y.2 column = .ok p) ∧
      SpatialPredicate.classify x.2 column = .error e

/-- Some clauses and then others, or the first failure. -/
def joined (front back : Outcome (List CqlFragment)) : Outcome (List CqlFragment) := do
  return (← front) ++ (← back)

theorem joined_nil (back : Outcome (List CqlFragment)) : joined (.ok []) back = back := by
  cases back <;> rfl

theorem joined_assoc (x y z : Outcome (List CqlFragment)) :
    joined (joined x y) z = joined x (joined y z) := by
  cases x with
  | error e => rfl
  | ok fs =>
    cases y with
    | error e => rfl
    | ok gs =>
      cases z with
      | error e => rfl
      | ok hs => exact congrArg Except.ok (List.append_assoc fs gs hs)

section

variable {column : String}

def clausesOf (column : String) : List (Bool × Json) → Outcome (List CqlFragment)
  | [] => .ok []
  | x :: es => joined (Option.toList <$> entryFragment column x.1 x.2) (clausesOf column es)

theorem clausesOf_append (es es' : List (Bool × Json)) :
    clausesOf column (es ++ es') = joined (clausesOf column es) (clausesOf column es') := by
  induction es with
  | nil => exact (joined_nil _).symm
  | cons x es ih => rw [List.cons_append, clausesOf, ih, clausesOf, joined_assoc]

theorem entryFragments_eq (negate : Bool) (statements : List Json) :
    entryFragments column negate statements = clausesOf column (statements.map (negate, ·)) := by
  induction statements with
  | nil => rfl
  | cons statement statements ih =>
    rw [entryFragments, ih, List.map_cons, clausesOf, joined]
    cases entryFragment column negate statement <;> rfl

theorem entries_cons (f : FilterDescriptor) (filters : List FilterDescriptor) :
    entries column (f :: filters) = entries column [f] ++ entries column filters := by
  simp [entries]

theorem fragments_eq (f : FilterDescriptor) :
    f.fragments column = clausesOf column (entries column [f]) := by
  rw [FilterDescriptor.fragments, entries, List.flatMap_singleton]
  split
  · exact entryFragments_eq _ _
  · rfl

theorem spatialFragments_eq (filters : List FilterDescriptor) :
    spatialFragments column filters = clausesOf column (entries column filters) := by
  induction filters with
  | nil => rfl
  | cons f filters ih =>
    rw [entries_cons, clausesOf_append, ← fragments_eq, ← ih]
    rfl

theorem entries_append (filters others : List FilterDescriptor) :
    entries column (filters ++ others) = entries column filters ++ entries column others :=
  List.flatMap_append

theorem entries_irrelevant {f : FilterDescriptor} (irrelevant : f.Irrelevant column) :
    entries column [f] = [] := by
  have skipped : (f.targets column && !f.about.disabled) = false := by
    rcases irrelevant with off | ⟨key, multi, kind⟩
    · rw [off, Bool.not_true, Bool.and_false]
    · simp [FilterDescriptor.targets, key, multi, kind]
  rw [entries, List.flatMap_singleton, skipped]
  rfl

theorem Padded.entries_eq {filters padded : List FilterDescriptor} (h : Padded column filters padded) :
    entries column padded = entries column filters := by
  induction h with
  | nil => rfl
  | @keep fs gs f rest ih => rw [entries_cons, ih, ← entries_cons]
  | add irrelevant rest ih => rw [entries_cons, entries_irrelevant irrelevant, List.nil_append, ih]

theorem entryFragment_error {negate : Bool} {statement : Json} {e : Failure}
    (h : SpatialPredicate.classify statement column = .error e) :
    entryFragment column negate statement = .error e := by
  rw [entryFragment, h]
  rfl

theorem entryFragment_ok {negate : Bool} {statement : Json} {p : SpatialPredicate}
    (h : SpatialPredicate.classify statement column = .ok p) :
    ∃ found, entryFragment column negate statement = .ok found := by
  rw [entryFragment, h]
  exact ⟨_, rfl⟩

theorem firstFails_cons {x : Bool × Json} {es : List (Bool × Json)} {e : Failure} :
    FirstFails column (x :: es) e ↔ SpatialPredicate.classify x.2 column = .error e ∨
      (∃ p, SpatialPredicate.classify x.2 column = .ok p) ∧ FirstFails column es e := by
  constructor
  · rintro ⟨before, y, after, split, fine, fails⟩
    cases before with
    | nil =>
      obtain ⟨rfl, -⟩ := List.cons.inj split
      exact .inl fails
    | cons z before =>
      obtain ⟨rfl, rest⟩ := List.cons.inj split
      exact .inr ⟨fine x List.mem_cons_self, before, y, after, rest,
        fun w hw => fine w (List.mem_cons_of_mem _ hw), fails⟩
  · rintro (fails | ⟨fine, before, y, after, rfl, others, fails⟩)
    · exact ⟨[], x, es, rfl, nofun, fails⟩
    · exact ⟨x :: before, y, after, rfl, List.forall_mem_cons.2 ⟨fine, others⟩, fails⟩

theorem clausesOf_eq_error_iff {es : List (Bool × Json)} {e : Failure} :
    clausesOf column es = .error e ↔ FirstFails column es e := by
  induction es with
  | nil =>
    refine ⟨nofun, ?_⟩
    rintro ⟨before, x, after, split, -⟩
    cases before <;> cases split
  | cons x es ih =>
    rw [firstFails_cons, ← ih, clausesOf]
    cases read : SpatialPredicate.classify x.2 column with
    | error e' =>
      rw [entryFragment_error read]
      change Except.error e' = Except.error e ↔ _
      simp
    | ok p =>
      obtain ⟨found, said⟩ : ∃ found, entryFragment column x.1 x.2 = .ok found := entryFragment_ok read
      rw [said]
      cases clausesOf column es with
      | error e' =>
        change Except.error e' = Except.error e ↔ _
        simp
      | ok fs =>
        change Except.ok (found.toList ++ fs) = Except.error e ↔ _
        simp

/-- What is no member of the shapes and the centres of an entry is not its concern. -/
theorem classify_eq_other_iff {statement : Json} :
    SpatialPredicate.classify statement column = .ok .other ↔
      (statement.get? "geo_shape").bind (·.get? column) = none ∧
        (statement.get? "geo_distance").bind (·.get? column) = none := by
  rw [SpatialPredicate.classify]
  cases shaped : (statement.get? "geo_shape").bind (·.get? column) with
  | some spec =>
    refine iff_of_false (fun h => ?_) (by simp)
    obtain ⟨g, -, h⟩ := Outcome.bind_eq_ok.1 h
    cases h
  | none =>
    cases centred : statement.get? "geo_distance" with
    | none => simp
    | some spec =>
      cases given : spec.get? column with
      | none => simp [given]
      | some target =>
        refine iff_of_false (fun h => ?_) (by simp [given])
        simp only [given] at h
        obtain ⟨g, -, h⟩ := Outcome.bind_eq_ok.1 h
        obtain ⟨⟨number, units⟩, -, h⟩ := Outcome.bind_eq_ok.1 h
        cases h

theorem entryFragment_eq_none_iff {negate : Bool} {statement : Json} :
    entryFragment column negate statement = .ok none
      ↔ SpatialPredicate.classify statement column = .ok .other := by
  rw [entryFragment]
  cases SpatialPredicate.classify statement column with
  | error e => exact ⟨nofun, nofun⟩
  | ok p => cases p <;> simp [SpatialPredicate.cql?, bind, Except.bind, pure, Except.pure]

theorem not_constrains_iff {statement : Json} :
    (¬ Constrains column statement ∧ ¬ (column = "distance" ∧ GivesDistance statement)) ↔
      (statement.get? "geo_shape").bind (·.get? column) = none ∧
        (statement.get? "geo_distance").bind (·.get? column) = none := by
  simp only [Constrains, GivesDistance, not_or, not_and, Option.not_isSome_iff_eq_none]
  by_cases named : column = "distance" <;> simp [named]

/-- Filters that are irrelevant change nothing, wherever they stand. The clauses of some filters and then others
are those of the former and then those of the latter, and what fails fails with the first entry that does, in
the order of filters, alternatives and entries. An entry about other columns has no clause and no failure and
might as well be left out, but for one column: where it is named as a distance is, no entry may give a
distance. -/
theorem spatialFragments_local (column : String) :
    (∀ filters padded, Padded column filters padded →
      spatialFragments column padded = spatialFragments column filters) ∧
    (∀ filters others, spatialFragments column (filters ++ others) = do
      return (← spatialFragments column filters) ++ (← spatialFragments column others)) ∧
    (∀ filters e, spatialFragments column filters = .error e ↔
      FirstFails column (entries column filters) e) ∧
    ∀ negate statement, (entryFragment column negate statement = .ok none ↔
        ¬ Constrains column statement ∧ ¬ (column = "distance" ∧ GivesDistance statement)) ∧
      (entryFragment column negate statement = .ok none → ∀ before after,
        entryFragments column negate (before ++ statement :: after)
          = entryFragments column negate (before ++ after)) := by
  refine ⟨fun filters padded h => ?_, fun filters others => ?_, fun filters e => ?_,
    fun negate statement => ⟨?_, fun nothing before after => ?_⟩⟩
  · rw [spatialFragments_eq, h.entries_eq, ← spatialFragments_eq]
  · rw [spatialFragments_eq, entries_append, clausesOf_append, ← spatialFragments_eq,
      ← spatialFragments_eq]
    rfl
  · rw [spatialFragments_eq, clausesOf_eq_error_iff]
  · rw [entryFragment_eq_none_iff, classify_eq_other_iff, not_constrains_iff]
  · have left : clausesOf column ((negate, statement) :: after.map (negate, ·))
        = clausesOf column (after.map (negate, ·)) := by
      rw [clausesOf, nothing]
      exact joined_nil _
    rw [entryFragments_eq, entryFragments_eq, List.map_append, List.map_append, List.map_cons,
      clausesOf_append, clausesOf_append, left]

/-- A filter that is switched off and one about another column say nothing, though what they hold would fail. -/
theorem spatialFragments_padded :
    let query := fun spec => some (Json.object [("bool", .object [("must", .array [
      .object [("geo_shape", .object [("geom", .object spec)])]])])])
    let kept : FilterDescriptor := ⟨{ key := some "geom", negate := true }, query [("shape",
      .object [("type", .string "LineString"), ("coordinates", .array [])])]⟩
    let off : FilterDescriptor := ⟨{ key := some "geom", disabled := true }, query []⟩
    let foreign : FilterDescriptor := ⟨{ key := some "name" }, query []⟩
    Padded "geom" [kept] [off, kept, foreign] ∧
      spatialFragments "geom" [off, kept, foreign]
        = .ok [.spatial "(NOT INTERSECTS(geom, LINESTRING ()))" "geom" true] ∧
      spatialFragments "geom" [⟨{ key := some "geom" }, query []⟩]
        = .error (SpatialPredicate.missingShape "geom") := by
  intro query kept off foreign
  have padded : Padded "geom" [kept] [off, kept, foreign] :=
    .add (.inl rfl) (.keep kept (.add (.inr ⟨by decide, rfl, by decide⟩) .nil))
  refine ⟨padded, ?_, by cbv⟩
  rw [(spatialFragments_local "geom").1 _ _ padded]
  cbv

/-- An entry about another column fails where the column is named as a distance is. -/
theorem spatialFragments_distance :
    let statement := Json.object [("geo_distance",
      .object [("distance", .string "1km"), ("geom", .array [.int 3, .int 3])])]
    let query := Json.object [("bool", .object [("must", .array [statement])])]
    ¬ Constrains "distance" statement ∧
      spatialFragments "distance" [⟨{ key := some "distance" }, some query⟩]
        = .error (SpatialPredicate.missingShape "distance") := by
  refine ⟨?_, by cbv⟩
  rintro (shaped | ⟨other, -⟩)
  · cases shaped
  · exact other rfl

end

end MapLayer
