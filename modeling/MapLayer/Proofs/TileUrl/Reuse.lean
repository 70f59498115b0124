import MapLayer.Proofs.TileUrl.Recovered

/-! When the tiles of one selection serve the next. Main statement: tiles that are kept are those of the next
selection, unless a query was taken away. -/

namespace MapLayer

open MapLayer.Cql

section

variable {source : LayerSource} {before next : Selection} {now : Instant} {url later : String}
  (geo : PlainColumn source.descriptor.geoColumn) (time : PlainColumn source.descriptor.timeColumn)
  (own : filterOf source.descriptor.baseUrl = .ok none)

include geo time own

/-- Tiles that are kept have the address of the next selection. The relations of the shapes before are
known, the parentheses in the query before are balanced, and it is not taken away. -/
theorem tileUrl_eq_of_canReuse (known : KnownRelations source.descriptor.geoColumn before.filters)
    (values : ∀ q ∈ before.query, q.HasBalancedValues)
    (kept : next.query = none → queryFragment before.query = .ok none)
    (shown : tileUrl source.descriptor before now = .ok url)
    (built : tileUrl source.descriptor next now = .ok later)
    (reused : source.canReuse (some before) next (some url) = .ok true) : later = url := by
  obtain ⟨recovered, found, reused⟩ := LayerSource.canReuse_eq_ok.1 reused
  obtain ⟨unchanged, -, times, ⟨shapes, others, hs, ho, texts⟩, -⟩ :=
    (canReuse_tileUrl geo time known values own shown found).1 reused
  obtain ⟨fragments, hf, -⟩ := tileUrl_eq_ok.1 shown
  obtain ⟨_, query, again, hq, rfl⟩ := tileFragments_eq_ok.1 hf
  obtain rfl := Except.ok.inj (hs.symm.trans again)
  obtain ⟨fragments, hg, -⟩ := tileUrl_eq_ok.1 built
  obtain ⟨_, next', again, hq', rfl⟩ := tileFragments_eq_ok.1 hg
  obtain rfl := Except.ok.inj (ho.symm.trans again)
  have windows : timeClause source.descriptor before now = timeClause source.descriptor next now := by
    cases aware : source.descriptor.isTimeAware with
    | false => rw [timeClause_eq_none aware, timeClause_eq_none aware]
    | true => exact timeClause_congr (times aware).1 (times aware).2
  obtain rfl := queryFragment_congr unchanged kept hq hq'
  rw [tileUrl_eq_iff ⟨rfl, rfl, rfl⟩ hg hf built shown]
  refine join_congr ?_
  simp only [List.map_append, texts, windows]

end

/-- The query for a value, and its clause. -/
def asking (value : String) : SourceQuery := .ofText ("a" ++ ":\"" ++ value ++ "\"")

def askingClause (value : String) : CqlFragment :=
  .plain ("(" ++ ("a" ++ "=" ++ ("'" ++ value ++ "'")) ++ ")")

def chosen : Selection :=
  { filters := [emptyShapeFilter "geom" "within"]
    query := some (asking "x")
    timeRange := some ⟨"now", "now"⟩ }

theorem tileFragments_asking {d : Descriptor} {s : Selection} {now : Instant}
    {shapes : List CqlFragment} {window : Option CqlFragment} {value : String}
    (query : s.query = some (asking value)) (quotable : ∀ c ∈ value.toList, c ≠ '"' ∧ c ≠ '\\')
    (hs : spatialFragments d.geoColumn s.filters = .ok shapes)
    (hw : timeClause d s now = window) :
    tileFragments d s now = .ok (shapes ++ window.toList ++ [askingClause value]) := by
  have named : Query.IsField "a" := by decide
  have text : queryFragment s.query = .ok (some (askingClause value)) := by
    rw [query]
    exact SourceQuery.fragment_quoted named (by decide) quotable
  exact tileFragments_eq_ok.2 ⟨_, _, hs, text, by rw [hw]; rfl⟩

theorem hasBalancedValues_asking {value : String} (quotable : ∀ c ∈ value.toList, c ≠ '"' ∧ c ≠ '\\')
    (plain : Unbracketed value.toList) : (asking value).HasBalancedValues := by
  have named : Query.IsField "a" := by decide
  exact (SourceQuery.hasPlainValues_quoted named (by decide) quotable plain).balanced

theorem values_chosen : ∀ q ∈ chosen.query, q.HasBalancedValues := by
  rintro q ⟨⟩
  exact hasBalancedValues_asking (by decide) (by decide)

theorem spatialFragments_chosen : spatialFragments nearby.descriptor.geoColumn chosen.filters
    = .ok [.spatial "(WITHIN(geom, MULTIPOINT ()))" "geom" false] := by cbv

theorem timeClause_chosen : timeClause nearby.descriptor chosen epoch = some
    (.plain "(time BETWEEN 1970-01-01T00:00:00.000Z AND 1970-01-01T00:00:00.000Z)") :=
  timeClause_epoch rfl rfl

theorem exists_tileUrl_chosen : ∃ url, tileUrl nearby.descriptor chosen epoch = .ok url :=
  exists_tileUrl parse_nearby
    (tileFragments_asking rfl (by decide) spatialFragments_chosen timeClause_chosen)

def hidden : FilterDescriptor :=
  { emptyShapeFilter "geom" "touches" with about := { key := some "geom", disabled := true } }

theorem spatialFragments_hidden :
    spatialFragments nearby.descriptor.geoColumn (hidden :: chosen.filters)
      = .ok [.spatial "(WITHIN(geom, MULTIPOINT ()))" "geom" false] := by cbv

theorem tileUrl_eq_of_canReuse_disabled :
    let next : Selection := { chosen with filters := hidden :: chosen.filters }
    ∃ url later, tileUrl nearby.descriptor chosen epoch = .ok url ∧
      tileUrl nearby.descriptor next epoch = .ok later ∧
      nearby.canReuse (some chosen) next (some url) = .ok true ∧ later = url := by
  intro next
  have geo : PlainColumn nearby.descriptor.geoColumn := by decide
  have time : PlainColumn nearby.descriptor.timeColumn := by decide
  have known : KnownRelations nearby.descriptor.geoColumn chosen.filters := by decide
  have kept : next.query = none → queryFragment chosen.query = .ok none := by
    intro none
    cases none
  obtain ⟨url, shown⟩ := exists_tileUrl_chosen
  obtain ⟨later, built⟩ := exists_tileUrl parse_nearby
    (tileFragments_asking (s := next) rfl (by decide) spatialFragments_hidden timeClause_chosen)
  obtain ⟨recovered, found⟩ := exists_fragmentsOf readsBack_nearby shown
  have reused : nearby.canReuse (some chosen) next (some url) = .ok true := by
    rw [LayerSource.canReuse_eq found]
    exact (canReuse_tileUrl geo time known values_chosen filterOf_nearby shown found).2
      ⟨queryChanged_ofText _, rfl, fun _ => ⟨rfl, rfl⟩,
        ⟨_, _, spatialFragments_chosen, spatialFragments_hidden, rfl⟩, .inl rfl⟩
  exact ⟨url, later, shown, built, reused, tileUrl_eq_of_canReuse geo time filterOf_nearby known
    values_chosen kept shown built reused⟩

/-- A filter that asks for shapes on a column disjoint from one without points, and a query whose value
looks like the end of one clause, a shape and the start of another. -/
def disjoint : FilterDescriptor := emptyShapeFilter "geom" "disjoint"

def shapeLike : SourceQuery := asking ") AND (WITHIN(geom, MULTIPOINT ())) AND ("

theorem timeClause_untimed {d : Descriptor} {s : Selection} {now : Instant}
    (slice : s.timeslice = none) (range : s.timeRange = none) : timeClause d s now = none := by
  simp [timeClause, windowFragment, timeWindow, timeFragment, slice, range]

theorem tileFragments_unshaped {d : Descriptor} {now : Instant} {value : String}
    (quotable : ∀ c ∈ value.toList, c ≠ '"' ∧ c ≠ '\\') :
    tileFragments d { query := some (asking value) } now = .ok [askingClause value] :=
  tileFragments_asking (s := { query := some (asking value) }) rfl quotable rfl
    (timeClause_untimed rfl rfl)

theorem exists_tileUrl_ne {s next : Selection} {fragments others : List CqlFragment}
    (before : tileFragments nearby.descriptor s epoch = .ok fragments)
    (after : tileFragments nearby.descriptor next epoch = .ok others)
    (reused : canReuse nearby.descriptor (some s) next
      (((CqlFragment.join fragments).map split).getD []) = .ok true)
    (differ : CqlFragment.join others ≠ CqlFragment.join fragments) :
    ∃ url later, tileUrl nearby.descriptor s epoch = .ok url ∧
      tileUrl nearby.descriptor next epoch = .ok later ∧
      nearby.canReuse (some s) next (some url) = .ok true ∧ later ≠ url := by
  obtain ⟨url, shown⟩ := exists_tileUrl parse_nearby before
  obtain ⟨later, built⟩ := exists_tileUrl parse_nearby after
  obtain ⟨recovered, found⟩ := exists_fragmentsOf readsBack_nearby shown
  obtain rfl := fragmentsOf_tileUrl filterOf_nearby before shown found
  refine ⟨url, later, shown, built, (LayerSource.canReuse_eq found).trans reused, fun same => ?_⟩
  exact differ ((tileUrl_eq_iff ⟨rfl, rfl, rfl⟩ after before built shown).1 same)

/-- A query that is taken away, a shape with an unknown relation and a value with parentheses can each
leave tiles on the map that the next selection does not ask for. -/
theorem tileUrl_ne_of_canReuse :
    PlainColumn nearby.descriptor.geoColumn ∧ PlainColumn nearby.descriptor.timeColumn ∧
    filterOf nearby.descriptor.baseUrl = .ok none ∧
    ∀ p ∈ ([({ query := some (asking "x") }, {}), ({ filters := [disjoint] }, {}),
        ({ query := some shapeLike },
          { query := some shapeLike, filters := [emptyShapeFilter "geom" "within"] })] :
        List (Selection × Selection)),
      ∃ url later, tileUrl nearby.descriptor p.1 epoch = .ok url ∧
        tileUrl nearby.descriptor p.2 epoch = .ok later ∧
        nearby.canReuse (some p.1) p.2 (some url) = .ok true ∧ later ≠ url := by
  have untimed {s : Selection} (slice : s.timeslice = none) (range : s.timeRange = none) :
      timeClause nearby.descriptor s epoch = none := timeClause_untimed slice range
  have within := spatialFragments_chosen
  have apart : spatialFragments nearby.descriptor.geoColumn [disjoint]
      = .ok [.spatial "(DISJOINT(geom, MULTIPOINT ()))" "geom" false] := by cbv
  have none : tileFragments nearby.descriptor {} epoch = .ok [] :=
    tileFragments_eq_ok.2 ⟨_, _, rfl, rfl, by rw [untimed rfl rfl]; rfl⟩
  have listed : tileFragments nearby.descriptor { filters := [disjoint] } epoch
      = .ok [.spatial "(DISJOINT(geom, MULTIPOINT ()))" "geom" false] :=
    tileFragments_eq_ok.2 ⟨_, _, apart, rfl, by rw [untimed rfl rfl]; rfl⟩
  refine ⟨by decide, by decide, filterOf_nearby, ?_⟩
  simp only [List.forall_mem_cons, List.not_mem_nil, false_imp_iff, implies_true, and_true]
  refine ⟨?_, ?_, ?_⟩
  · refine exists_tileUrl_ne (tileFragments_unshaped (by decide)) none
      (canReuse_eq_true.2 ⟨rfl, rfl, fun _ => ⟨rfl, rfl⟩, [], rfl, ?_, .inl rfl⟩) ?_
    · decide
    · decide
  · refine exists_tileUrl_ne listed none
      (canReuse_eq_true.2 ⟨rfl, rfl, fun _ => ⟨rfl, rfl⟩, [], rfl, ?_, .inl rfl⟩) ?_
    · decide
    · decide
  · refine exists_tileUrl_ne (tileFragments_unshaped (by decide))
      (tileFragments_asking rfl (by decide) within (untimed rfl rfl))
      (canReuse_eq_true.2 ⟨queryChanged_ofText _, rfl, fun _ => ⟨rfl, rfl⟩, _, within, ?_, .inl rfl⟩) ?_
    · decide
    · decide

end MapLayer
