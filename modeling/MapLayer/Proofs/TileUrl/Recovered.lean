import MapLayer.Proofs.Decimal.Equal
import MapLayer.Proofs.Query.Scalar
import MapLayer.Proofs.TileUrl.Address
import MapLayer.Proofs.Request.ReadsBack
import MapLayer.Source

/-! What is compared when the tiles of one selection may serve the next. Main statement: the shapes of an
address of tiles are those of its selection, and tiles are kept if nothing that is compared differs. -/

namespace MapLayer

open MapLayer.Cql MapLayer.SpatialPredicate

/-- Filters that ask of a column only for relations that are told apart in a filter's text. -/
def KnownRelations (column : String) (filters : List FilterDescriptor) : Prop :=
  ∀ written ∈ writtenRelations column filters, raised written ∈ spatialPredicates

instance (column : String) (filters : List FilterDescriptor) :
    Decidable (KnownRelations column filters) :=
  inferInstanceAs (Decidable (∀ written ∈ _, _))

theorem KnownRelations.enclosed {column : String} {filters : List FilterDescriptor}
    {shapes : List CqlFragment} (known : KnownRelations column filters)
    (name : Unbracketed column.toList) (built : spatialFragments column filters = .ok shapes)
    {f : CqlFragment} (hf : f ∈ shapes) : Enclosed f.cql.toList := by
  have plain : ∀ relation ∈ spatialPredicates, Unbracketed relation.toList := by decide
  obtain ⟨relation, has, rfl | ⟨written, hw, rfl⟩⟩ := hasRelation_of_mem built hf
  · exact has.enclosed (by decide) name
  · exact has.enclosed (plain _ (known written hw)) name

section

variable {d : Descriptor} {s t : Selection} {now : Instant}

theorem timeClause_congr (slices : (s.timeslice == t.timeslice) = true)
    (ranges : s.timeRange = t.timeRange) : timeClause d s now = timeClause d t now := by
  have window : timeWindow s.timeslice s.timeRange now = timeWindow t.timeslice t.timeRange now := by
    rw [ranges]
    cases hs : s.timeslice with
    | none =>
      cases ht : t.timeslice with
      | none => rfl
      | some b =>
        rw [hs, ht] at slices
        cases slices
    | some a =>
      cases ht : t.timeslice with
      | none =>
        rw [hs, ht] at slices
        cases slices
      | some b =>
        rw [hs, ht] at slices
        obtain ⟨start, stop⟩ := Bool.and_eq_true_iff.1 (slices : (a == b) = true)
        simp only [timeWindow]
        rw [Timeslice.instant?_eq_of_beq start, Timeslice.instant?_eq_of_beq stop]
  rw [timeClause, windowFragment, window]
  rfl

theorem timeClause_eq_none (unaware : d.isTimeAware = false) : timeClause d s now = none := by
  have unnamed : d.timeColumn = "" := by simpa [Descriptor.isTimeAware] using unaware
  simp only [timeClause, windowFragment, timeFragment, if_pos unnamed]

theorem queryFragment_congr {p q : Option SourceQuery} {f g : Option CqlFragment}
    (unchanged : queryChanged p q = false) (kept : q = none → queryFragment p = .ok none)
    (hp : queryFragment p = .ok f) (hq : queryFragment q = .ok g) : f = g := by
  cases q with
  | none =>
    rw [kept rfl] at hp
    exact Except.ok.inj (hp.symm.trans hq)
  | some q =>
    cases p with
    | none => cases unchanged
    | some p => exact SourceQuery.fragment_eq_of_beq (Bool.not_eq_eq_eq_not.1 unchanged) hp hq

theorem canReuse_eq_true {before next : Selection} {fragments : List CqlFragment} :
    canReuse d (some before) next fragments = .ok true ↔
      queryChanged before.query next.query = false ∧ d.nrt = false ∧
      (d.isTimeAware = true →
        (before.timeslice == next.timeslice) = true ∧ before.timeRange = next.timeRange) ∧
      ∃ shapes, spatialFragments d.geoColumn next.filters = .ok shapes ∧
        (fragments.filter (·.isSpatial)).map (·.cql) = shapes.map (·.cql) ∧
        (d.isTimeAware = true ∨ fragments.any CqlFragment.isTimeRange = false) := by
  have times : (d.isTimeAware && (before.timeslice != next.timeslice
      || before.timeRange != next.timeRange)) = false ↔ (d.isTimeAware = true →
        (before.timeslice == next.timeslice) = true ∧ before.timeRange = next.timeRange) := by
    cases d.isTimeAware <;> simp [bne]
  unfold canReuse
  dsimp only
  split
  · rename_i changed
    refine ⟨nofun, ?_⟩
    rintro ⟨same, live, -⟩
    rw [same, live] at changed
    cases changed
  · rename_i steady
    rw [Bool.not_eq_true, Bool.or_eq_false_iff] at steady
    split
    · rename_i moved
      refine ⟨nofun, ?_⟩
      rintro ⟨-, -, still, -⟩
      rw [times.2 still] at moved
      cases moved
    · rename_i still
      have still := times.1 (Bool.not_eq_true _ ▸ still)
      constructor
      · intro h
        obtain ⟨shapes, built, h⟩ := Outcome.bind_eq_ok.1 h
        obtain ⟨texts, range⟩ := Bool.and_eq_true_iff.1 (Outcome.pure_eq_ok.1 h)
        exact ⟨steady.1, steady.2, still, shapes, built, beq_iff_eq.1 texts, by simpa using range⟩
      · rintro ⟨-, -, -, shapes, built, texts, range⟩
        refine Outcome.bind_eq_ok.2 ⟨shapes, built, Outcome.pure_eq_ok.2 ?_⟩
        exact Bool.and_eq_true_iff.2 ⟨beq_iff_eq.2 texts, by simpa using range⟩

theorem fragmentsOf_eq_ok {url : String} {recovered : List CqlFragment} :
    fragmentsOf (some url) = .ok recovered ↔
      ∃ filter, filterOf url = .ok filter ∧ recovered = (filter.map split).getD [] := by
  unfold fragmentsOf
  rw [Outcome.bind_eq_ok]
  simp only [Outcome.pure_eq_ok, @eq_comm _ recovered]

theorem exists_fragmentsOf {url : String}
    (reads : ReadsBack d.baseUrl) (address : tileUrl d s now = .ok url) :
    ∃ recovered, fragmentsOf (some url) = .ok recovered := by
  obtain ⟨filter, found⟩ := (readsBack_iff_filterOf address).1 reads
  exact ⟨_, fragmentsOf_eq_ok.2 ⟨filter, found, rfl⟩⟩

/-- What an address of tiles is taken apart into, whatever its clauses are. -/
theorem fragmentsOf_tileUrl {url : String}
    {fragments recovered : List CqlFragment} (own : filterOf d.baseUrl = .ok none)
    (built : tileFragments d s now = .ok fragments) (address : tileUrl d s now = .ok url)
    (found : fragmentsOf (some url) = .ok recovered) :
    recovered = ((CqlFragment.join fragments).map split).getD [] := by
  obtain ⟨filter, asked, rfl⟩ := fragmentsOf_eq_ok.1 found
  rw [filterOf_tileUrl built address own asked, Option.or_none]

end

section

variable {d : Descriptor} {s next : Selection} {now : Instant} {url : String}
  {fragments recovered shapes : List CqlFragment} {query : Option CqlFragment} {f : CqlFragment}

theorem reread_shapes (geo : PlainColumn d.geoColumn)
    (known : KnownRelations d.geoColumn s.filters)
    (hs : spatialFragments d.geoColumn s.filters = .ok shapes) :
    shapes.map (·.reread) = shapes ∧ ∀ f ∈ shapes, f.isSpatial = true := by
  constructor
  · refine (List.map_congr_left fun f hf => ?_).trans (List.map_id' shapes)
    exact classify_of_mem_shapes geo known hs hf
  · intro f hf
    obtain ⟨relation, ⟨negate, operands, -, rfl⟩, -⟩ := hasRelation_of_mem hs hf
    rfl

theorem reread_time (time : PlainColumn d.timeColumn) (hf : timeClause d s now = some f) :
    f.reread.isSpatial = false ∧ f.reread.isTimeRange = true := by
  have window := (isTimeClause_of_window hf).2
  exact ⟨window.isSpatial time.1, window.isTimeRange time.1⟩

theorem reread_query (values : ∀ q ∈ s.query, q.HasBalancedValues)
    (hf : queryFragment s.query = .ok (some f)) : f.reread.isSpatial = false := by
  obtain ⟨q, hq, said⟩ := queryFragment_eq_ok hf
  exact SourceQuery.fragment_isSpatial said (values q hq)

/-- A time is limited by the time window, and by a query that looks as if it did. -/
theorem any_isTimeRange (geo : PlainColumn d.geoColumn) (time : PlainColumn d.timeColumn)
    (known : KnownRelations d.geoColumn s.filters)
    (hs : spatialFragments d.geoColumn s.filters = .ok shapes) :
    ((shapes ++ (timeClause d s now).toList ++ query.toList).map (·.reread)).any
        CqlFragment.isTimeRange = false ↔
      timeClause d s now = none ∧ ∀ f, query = some f → f.reread.isTimeRange = false := by
  obtain ⟨same, spatial⟩ := reread_shapes geo known hs
  have apart : shapes.any CqlFragment.isTimeRange = false := by
    rw [List.any_eq_false]
    intro f hf
    simp [CqlFragment.isTimeRange, spatial f hf]
  rw [List.map_append, List.map_append, List.any_append, List.any_append, same, apart]
  cases given : timeClause d s now with
  | none => cases query <;> simp
  | some f => simp [(reread_time time given).2]

variable (geo : PlainColumn d.geoColumn) (time : PlainColumn d.timeColumn)
  (known : KnownRelations d.geoColumn s.filters)
  (values : ∀ q ∈ s.query, q.HasBalancedValues)

include geo time known values

theorem enclosed_of_mem (built : tileFragments d s now = .ok fragments) (hf : f ∈ fragments) :
    Enclosed f.cql.toList := by
  obtain ⟨shapes, query, hs, hq, rfl⟩ := tileFragments_eq_ok.1 built
  rcases List.mem_append.1 hf with hf | hf
  · rcases List.mem_append.1 hf with hf | hf
    · exact known.enclosed geo.1 hs hf
    · exact (isTimeClause_of_window (Option.mem_toList.1 hf)).2.enclosed time.1
  · obtain rfl := Option.mem_toList.1 hf
    obtain ⟨q, hq, said⟩ := queryFragment_eq_ok hq
    exact SourceQuery.fragment_enclosed said (values q hq)

theorem recovered_eq (own : filterOf d.baseUrl = .ok none)
    (built : tileFragments d s now = .ok fragments) (address : tileUrl d s now = .ok url)
    (found : fragmentsOf (some url) = .ok recovered) : recovered = fragments.map (·.reread) := by
  rw [fragmentsOf_tileUrl own built address found]
  exact split_join_enclosed fun f => enclosed_of_mem geo time known values built

/-- Among the clauses of an address the shapes are taken for shapes, and nothing else. -/
theorem filter_isSpatial (hs : spatialFragments d.geoColumn s.filters = .ok shapes)
    (hq : queryFragment s.query = .ok query) :
    ((shapes ++ (timeClause d s now).toList ++ query.toList).map (·.reread)).filter (·.isSpatial)
      = shapes := by
  obtain ⟨same, spatial⟩ := reread_shapes geo known hs
  have window : ((timeClause d s now).toList.map (·.reread)).filter (·.isSpatial) = [] := by
    cases given : timeClause d s now with
    | none => rfl
    | some f => simp [(reread_time time given).1]
  have text : (query.toList.map (·.reread)).filter (·.isSpatial) = [] := by
    cases query with
    | none => rfl
    | some f => simp [reread_query values hq]
  rw [List.map_append, List.map_append, List.filter_append, List.filter_append, same, window, text,
    List.filter_eq_self.2 spatial, List.append_nil, List.append_nil]

/-- The tiles of a selection are kept if nothing that is compared differs, and no clause of it limits a
time that the layer does not have. -/
theorem canReuse_tileUrl (own : filterOf d.baseUrl = .ok none) (address : tileUrl d s now = .ok url)
    (found : fragmentsOf (some url) = .ok recovered) :
    canReuse d (some s) next recovered = .ok true ↔
      queryChanged s.query next.query = false ∧ d.nrt = false ∧
      (d.isTimeAware = true →
        (s.timeslice == next.timeslice) = true ∧ s.timeRange = next.timeRange) ∧
      (∃ shapes later, spatialFragments d.geoColumn s.filters = .ok shapes ∧
        spatialFragments d.geoColumn next.filters = .ok later ∧
        shapes.map (·.cql) = later.map (·.cql)) ∧
      (d.isTimeAware = true ∨
        ∀ f, queryFragment s.query = .ok (some f) → f.reread.isTimeRange = false) := by
  obtain ⟨fragments, built, -⟩ := tileUrl_eq_ok.1 address
  obtain rfl := recovered_eq geo time known values own built address found
  obtain ⟨shapes, query, hs, hq, rfl⟩ := tileFragments_eq_ok.1 built
  have timeless : (d.isTimeAware = true ∨ ((shapes ++ (timeClause d s now).toList
        ++ query.toList).map (·.reread)).any CqlFragment.isTimeRange = false) ↔
      (d.isTimeAware = true ∨
        ∀ f, queryFragment s.query = .ok (some f) → f.reread.isTimeRange = false) := by
    cases aware : d.isTimeAware with
    | true => simp
    | false =>
      rw [any_isTimeRange geo time known hs, timeClause_eq_none aware, hq]
      simp
  rw [canReuse_eq_true, filter_isSpatial geo time known values hs hq, timeless]
  constructor
  · rintro ⟨query, live, times, later, built, texts, range⟩
    exact ⟨query, live, times, ⟨shapes, later, hs, built, texts⟩, range⟩
  · rintro ⟨query, live, times, ⟨_, later, again, built, texts⟩, range⟩
    obtain rfl := Except.ok.inj (hs.symm.trans again)
    exact ⟨query, live, times, later, built, texts, range⟩

end

theorem LayerSource.canReuse_eq_ok {source : LayerSource} {before : Option Selection}
    {next : Selection} {url : Option String} {answer : Bool} :
    source.canReuse before next url = .ok answer ↔ ∃ recovered, fragmentsOf url = .ok recovered ∧
      MapLayer.canReuse source.descriptor before next recovered = .ok answer :=
  Outcome.bind_eq_ok

theorem LayerSource.canReuse_eq {source : LayerSource} {before : Option Selection} {next : Selection}
    {url : Option String} {recovered : List CqlFragment} (found : fragmentsOf url = .ok recovered) :
    source.canReuse before next url = MapLayer.canReuse source.descriptor before next recovered := by
  rw [LayerSource.canReuse, found]
  rfl

theorem LayerSource.canReuse_ne_ok {source : LayerSource} {before : Option Selection}
    {s next : Selection} {now : Instant} {url : String} {answer : Bool}
    (unread : ¬ReadsBack source.descriptor.baseUrl)
    (shown : tileUrl source.descriptor s now = .ok url) :
    source.canReuse before next (some url) ≠ .ok answer := by
  intro reused
  obtain ⟨recovered, found, -⟩ := LayerSource.canReuse_eq_ok.1 reused
  obtain ⟨filter, asked, -⟩ := fragmentsOf_eq_ok.1 found
  exact unread ((readsBack_iff_filterOf shown).2 ⟨filter, asked⟩)

theorem queryChanged_ofText (text : String) :
    queryChanged (some (.ofText text)) (some (.ofText text)) = false := by
  have query : (Json.string text == Json.string text) = true := beq_self_eq_true text
  have language : (SourceQuery.understood == SourceQuery.understood) = true := by decide
  exact Bool.not_eq_eq_eq_not.2 (Bool.and_eq_true_iff.2 ⟨query, language⟩)

def nearby : LayerSource :=
  { id := "mines", descriptor := { mines with baseUrl := "http://[::1]/wms" } }

theorem parse_nearby : Url.parse nearby.descriptor.baseUrl.toList
    = .ok ⟨"http".toList, some "[::1]".toList, "/wms".toList, none, none⟩ := by cbv

theorem filterOf_nearby : filterOf nearby.descriptor.baseUrl = .ok none := by cbv

theorem readsBack_nearby : ReadsBack nearby.descriptor.baseUrl :=
  readsBack_of_isAscii parse_nearby (by decide) (by decide +kernel)

/-- The tiles of a service whose name is too long to be read again. -/
def faraway : LayerSource :=
  { nearby with descriptor := { nearby.descriptor with baseUrl := Url.addressOn longName } }

theorem parse_faraway : ∃ u, Url.parse faraway.descriptor.baseUrl.toList = .ok u ∧
    u.query = none ∧ u.fragment = none := by
  obtain ⟨all, filled, short, -⟩ := longName_spec
  exact ⟨_, Url.parse_ideographs all filled short, rfl, rfl⟩

theorem filterOf_faraway : filterOf faraway.descriptor.baseUrl = .ok none := by
  obtain ⟨u, parsed, none, -⟩ := parse_faraway
  refine filterOf_eq_ok.2 ⟨.ofList u.pairs, by rw [queryParams, parsed], ?_⟩
  rw [Url.pairs, none]
  rfl

theorem not_readsBack_faraway : ¬ReadsBack faraway.descriptor.baseUrl := by
  obtain ⟨all, filled, short, long⟩ := longName_spec
  exact not_readsBack_ideographs all filled short long

end MapLayer
