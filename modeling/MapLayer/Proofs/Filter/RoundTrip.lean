import MapLayer.Proofs.Filter.Clauses

/-! Taking spatial filters apart. Main statement: where relations are words, the clauses come back as
they were joined exactly if the relations are known ones. -/

namespace MapLayer

open MapLayer.Cql MapLayer.Text

namespace SpatialPredicate

theorem toList_raised (written : String) : (raised written).toList = upper written.toList :=
  String.toList_ofList

theorem solid_raised {written : String} (letters : ∀ c ∈ written.toList, isLetter c = true) :
    Solid (raised written).toList := by
  intro c hc
  rw [toList_raised] at hc
  have capital := upper_letter letters hc
  refine ⟨not_blank_of_capital capital, ?_⟩
  rintro rfl
  revert capital
  decide

theorem unbracketed_raised {written : String} (plain : Unbracketed written.toList) :
    Unbracketed (raised written).toList := by
  rw [toList_raised]
  exact upper_unbracketed plain

theorem unbracketed_of_letters {s : List Char} (letters : ∀ c ∈ s, isLetter c = true) :
    Unbracketed s := by
  intro c hc
  have := letters c hc
  constructor <;> (rintro rfl; revert this; decide)

end SpatialPredicate

open SpatialPredicate

variable {column : String} {filters : List FilterDescriptor} {shapes : List CqlFragment}

theorem enclosed_of_mem_shapes (name : Unbracketed column.toList)
    (plain : ∀ written ∈ writtenRelations column filters, Unbracketed written.toList)
    (built : spatialFragments column filters = .ok shapes) {f : CqlFragment} (hf : f ∈ shapes) :
    Enclosed f.cql.toList := by
  obtain ⟨relation, has, rfl | ⟨written, hw, rfl⟩⟩ := hasRelation_of_mem built hf
  · exact has.enclosed (by decide) name
  · exact has.enclosed (unbracketed_raised (plain written hw)) name

theorem classify_of_mem_shapes (name : PlainColumn column)
    (known : ∀ written ∈ writtenRelations column filters, raised written ∈ spatialPredicates)
    (built : spatialFragments column filters = .ok shapes) {f : CqlFragment} (hf : f ∈ shapes) :
    classify f.cql.toList = f := by
  obtain ⟨relation, has, rfl | ⟨written, hw, rfl⟩⟩ := hasRelation_of_mem built hf
  · exact has.classify_eq (by decide) name
  · exact has.classify_eq (known written hw) name

/-- Clauses whose relations are words come back with the same texts, and as they were exactly if the
relations are among the known predicates. -/
theorem split_shapes_eq_iff {filter : String} (name : PlainColumn column)
    (letters : ∀ written ∈ writtenRelations column filters,
      ∀ c ∈ written.toList, isLetter c = true)
    (built : spatialFragments column filters = .ok shapes)
    (joined : CqlFragment.join shapes = some filter) :
    (split filter).map (·.cql) = shapes.map (·.cql) ∧
      (split filter = shapes ↔
        ∀ written ∈ writtenRelations column filters, raised written ∈ spatialPredicates) := by
  have plain : ∀ written ∈ writtenRelations column filters, Unbracketed written.toList :=
    fun written hw => unbracketed_of_letters (letters written hw)
  have apart := split_of_join (fun f hf => enclosed_of_mem_shapes name.1 plain built hf) joined
  refine ⟨?_, ?_, ?_⟩
  · rw [apart, List.map_map]
    refine List.map_congr_left fun f _ => ?_
    rw [Function.comp_apply, classify_cql, String.ofList_toList]
  · intro same written hw
    apply Decidable.byContradiction
    intro unknown
    obtain ⟨f, hf, has⟩ := exists_hasRelation built hw
    have raisedAll : ∀ c ∈ (raised written).toList, Raised c := by
      intro c hc
      rw [toList_raised] at hc
      exact upper_raised hc
    have changed := has.classify_ne raisedAll (solid_raised (letters written hw)) unknown
    rw [apart, ← List.map_id' shapes, List.map_map] at same
    exact changed (List.map_inj_left.1 same f hf)
  · intro known
    rw [apart]
    exact (List.map_congr_left fun f hf => classify_of_mem_shapes name known built hf).trans
      (List.map_id' shapes)

/-- A filter that asks how the shapes of a column lie to a geometry without points. -/
def emptyShapeFilter (column relation : String) : FilterDescriptor :=
  let shape : Json := .object [("type", .string "MultiPoint"), ("coordinates", .array [])]
  let spec : Json := .object [("relation", .string relation), ("shape", shape)]
  let statement : Json := .object [("geo_shape", .object [(column, spec)])]
  { about := { key := some column }
    query := some (.object [("bool", .object [("must", .array [statement])])]) }

theorem split_within_touches :
    let filters := [emptyShapeFilter "geom" "within", emptyShapeFilter "geom" "touches"]
    let within := CqlFragment.spatial "(WITHIN(geom, MULTIPOINT ()))" "geom" false
    let touches := CqlFragment.spatial "(TOUCHES(geom, MULTIPOINT ()))" "geom" false
    let filter := "(WITHIN(geom, MULTIPOINT ())) AND (TOUCHES(geom, MULTIPOINT ()))"
    PlainColumn "geom" ∧
    (∀ written ∈ writtenRelations "geom" filters, ∀ c ∈ written.toList, isLetter c = true) ∧
    spatialFragments "geom" filters = .ok [within, touches] ∧
    CqlFragment.join [within, touches] = some filter ∧
    (split filter).map (·.cql) = [within, touches].map (·.cql) ∧
    (split filter = [within, touches] ↔
      ∀ written ∈ writtenRelations "geom" filters, raised written ∈ spatialPredicates) := by
  intro filters within touches filter
  have name : PlainColumn "geom" := by decide
  have letters : ∀ written ∈ writtenRelations "geom" filters,
      ∀ c ∈ written.toList, isLetter c = true := by decide
  have built : spatialFragments "geom" filters = .ok [within, touches] := by cbv
  have joined : CqlFragment.join [within, touches] = some filter := by decide
  exact ⟨name, letters, built, joined, split_shapes_eq_iff name letters built joined⟩

/-- A relation that is no known predicate does not come back as a spatial clause. -/
theorem split_disjoint_ne :
    let disjoint := CqlFragment.spatial "(DISJOINT(geom, MULTIPOINT ()))" "geom" false
    PlainColumn "geom" ∧ (∀ c ∈ "disjoint".toList, isLetter c = true) ∧
    spatialFragments "geom" [emptyShapeFilter "geom" "disjoint"] = .ok [disjoint] ∧
    CqlFragment.join [disjoint] = some disjoint.cql ∧ split disjoint.cql ≠ [disjoint] := by
  refine ⟨by decide, by decide, ?_, by decide, by decide⟩
  cbv

end MapLayer
