import MapLayer.Proofs.Filter.Plain
import MapLayer.Proofs.Filter.RoundTrip
import MapLayer.Proofs.Query.Reading
import MapLayer.TileUrl

/-! The clauses of a selection and the filter that they make. Main statement: the filter comes apart into
the clauses it was joined from, each taken for what it is. -/

namespace MapLayer

open MapLayer.Cql MapLayer.SpatialPredicate

variable {d : Descriptor} {s : Selection} {now : Instant} {fragments : List CqlFragment}
  {filter : String}

def timeClause (d : Descriptor) (s : Selection) (now : Instant) : Option CqlFragment :=
  windowFragment d.timeColumn s.timeslice s.timeRange now

theorem tileFragments_eq_ok : tileFragments d s now = .ok fragments ↔
    ∃ shapes query, spatialFragments d.geoColumn s.filters = .ok shapes ∧
      queryFragment s.query = .ok query ∧
      fragments = shapes ++ (timeClause d s now).toList ++ query.toList := by
  unfold tileFragments
  constructor
  · intro h
    obtain ⟨shapes, hs, h⟩ := Outcome.bind_eq_ok.1 h
    obtain ⟨query, hq, h⟩ := Outcome.bind_eq_ok.1 h
    exact ⟨shapes, query, hs, hq, (Outcome.pure_eq_ok.1 h).symm⟩
  · rintro ⟨shapes, query, hs, hq, rfl⟩
    rw [hs]
    exact Outcome.bind_eq_ok.2 ⟨shapes, rfl, Outcome.bind_eq_ok.2 ⟨query, hq, rfl⟩⟩

/-- What a clause is taken for when it is read again. -/
def CqlFragment.reread (f : CqlFragment) : CqlFragment := classify f.cql.toList

theorem CqlFragment.reread_cql (f : CqlFragment) : f.reread.cql = f.cql := by
  rw [reread, classify_cql, String.ofList_toList]

theorem queryFragment_eq_ok {query : Option SourceQuery} {f : CqlFragment}
    (h : queryFragment query = .ok (some f)) : ∃ q ∈ query, q.fragment = .ok (some f) := by
  cases query with
  | none => cases h
  | some q => exact ⟨q, rfl, h⟩

/-- The filter of a selection comes apart into the texts of its clauses, in their order. A shape with a
known relation is taken for what it is; the time window and the query are not taken for shapes, and
the time window still limits a time. -/
theorem split_filter (geo : PlainColumn d.geoColumn) (time : PlainColumn d.timeColumn)
    (relations : ∀ written ∈ writtenRelations d.geoColumn s.filters, Unbracketed written.toList)
    (values : ∀ q ∈ s.query, q.HasPlainValues)
    (built : tileFragments d s now = .ok fragments)
    (joined : CqlFragment.join fragments = some filter) :
    ∃ shapes query, spatialFragments d.geoColumn s.filters = .ok shapes ∧
      queryFragment s.query = .ok query ∧
      fragments = shapes ++ (timeClause d s now).toList ++ query.toList ∧
      split filter = fragments.map (·.reread) ∧
      (split filter).map (·.cql) = fragments.map (·.cql) ∧
      (∀ f ∈ shapes, ∀ relation ∈ spatialPredicates,
        HasRelation d.geoColumn relation f → f.reread = f) ∧
      (∀ f ∈ timeClause d s now, f.reread.isSpatial = false ∧ f.reread.fieldKey = "" ∧
        f.reread.isTimeRange = true) ∧
      (∀ f ∈ query, f.reread.isSpatial = false ∧ f.reread.fieldKey = "") := by
  obtain ⟨shapes, query, hs, hq, rfl⟩ := tileFragments_eq_ok.1 built
  have window : ∀ f ∈ timeClause d s now, IsTimeClause d.timeColumn f :=
    fun f hf => (isTimeClause_of_window hf).2
  have text : ∀ f ∈ query, ∃ q ∈ s.query, q.fragment = .ok (some f) := by
    rintro f rfl
    exact queryFragment_eq_ok hq
  have enclosed : ∀ f ∈ shapes ++ (timeClause d s now).toList ++ query.toList,
      Enclosed f.cql.toList := by
    intro f hf
    rcases List.mem_append.1 hf with hf | hf
    · rcases List.mem_append.1 hf with hf | hf
      · exact enclosed_of_mem_shapes geo.1 relations hs hf
      · exact (window f (Option.mem_toList.1 hf)).enclosed time.1
    · obtain ⟨q, hq, said⟩ := text f (Option.mem_toList.1 hf)
      exact SourceQuery.fragment_enclosed said (values q hq).balanced
  have apart := split_of_join enclosed joined
  refine ⟨shapes, query, hs, hq, rfl, apart, ?_, ?_, ?_, ?_⟩
  · rw [apart, List.map_map]
    exact List.map_congr_left fun f _ => f.reread_cql
  · intro f _ relation known has
    exact has.classify_eq known geo
  · intro f hf
    have plain := (window f hf).isSpatial time.1
    exact ⟨plain, fieldKey_classify plain, (window f hf).isTimeRange time.1⟩
  · intro f hf
    obtain ⟨q, hq, said⟩ := text f hf
    have plain := SourceQuery.fragment_isSpatial said (values q hq).balanced
    exact ⟨plain, fieldKey_classify plain⟩

def mines : Descriptor :=
  { sourceType := Descriptor.typeTag, baseUrl := "http://h/wms", layer := "mines", name := "Mines",
    timeColumn := "time", geoColumn := "geom" }

def epoch : Instant := ⟨Instant.epochDay, 0, 0⟩

theorem timeWindow_epoch : timeWindow none (some ⟨"now", "now"⟩) epoch
    = (some "1970-01-01T00:00:00.000Z", some "1970-01-01T00:00:00.000Z") := by cbv

theorem timeClause_epoch (slice : s.timeslice = none) (range : s.timeRange = some ⟨"now", "now"⟩) :
    timeClause d s epoch = timeFragment d.timeColumn (some "1970-01-01T00:00:00.000Z")
      (some "1970-01-01T00:00:00.000Z") := by
  rw [timeClause, windowFragment, slice, range, timeWindow_epoch]

theorem split_filter_of_each_kind :
    let s : Selection := {
      filters := [emptyShapeFilter "geom" "within"]
      query := some (.ofText ("a" ++ ":\"" ++ "x" ++ "\""))
      timeRange := some ⟨"now", "now"⟩ }
    let now : Instant := ⟨Instant.epochDay, 0, 0⟩
    let fragments : List CqlFragment := [.spatial "(WITHIN(geom, MULTIPOINT ()))" "geom" false,
      .plain "(time BETWEEN 1970-01-01T00:00:00.000Z AND 1970-01-01T00:00:00.000Z)",
      .plain "(a='x')"]
    ∃ filter, tileFragments mines s now = .ok fragments ∧
      CqlFragment.join fragments = some filter ∧
      (split filter).map (·.cql) = fragments.map (·.cql) := by
  intro s now fragments
  have geo : PlainColumn mines.geoColumn := by decide
  have time : PlainColumn mines.timeColumn := by decide
  have relations : ∀ written ∈ writtenRelations mines.geoColumn s.filters,
      Unbracketed written.toList := by decide
  have quotable : ∀ c ∈ "x".toList, c ≠ '"' ∧ c ≠ '\\' := by decide
  have named : Query.IsField "a" := by decide
  have values : ∀ q ∈ s.query, q.HasPlainValues := by
    rintro q ⟨⟩
    exact SourceQuery.hasPlainValues_quoted named (by decide) quotable (by decide)
  have shapes : spatialFragments mines.geoColumn s.filters
      = .ok [.spatial "(WITHIN(geom, MULTIPOINT ()))" "geom" false] := by cbv
  have query : queryFragment s.query = .ok (some (.plain "(a='x')")) :=
    SourceQuery.fragment_quoted named (by decide) quotable
  have window : timeClause mines s now = some
      (.plain "(time BETWEEN 1970-01-01T00:00:00.000Z AND 1970-01-01T00:00:00.000Z)") :=
    timeClause_epoch rfl rfl
  have built : tileFragments mines s now = .ok fragments :=
    tileFragments_eq_ok.2 ⟨_, _, shapes, query, by rw [window]; rfl⟩
  obtain ⟨_, _, _, _, _, _, same, _⟩ := split_filter geo time relations values built rfl
  exact ⟨_, built, rfl, same⟩

end MapLayer
