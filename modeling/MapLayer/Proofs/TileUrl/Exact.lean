import MapLayer.Proofs.TileUrl.Reuse

/-! When tiles are kept that could be. Main statements: without queries they are kept exactly if the next
selection has the same address, and a selection keeps its own tiles. -/

namespace MapLayer

open MapLayer.Cql

/-- Without queries and with the same times, tiles are kept exactly if the next selection has the same
address. The relations of all shapes are known. -/
theorem canReuse_iff_tileUrl_eq {source : LayerSource} {before next : Selection} {now : Instant}
    {url later : String} (live : source.descriptor.nrt = false)
    (geo : PlainColumn source.descriptor.geoColumn) (time : PlainColumn source.descriptor.timeColumn)
    (own : filterOf source.descriptor.baseUrl = .ok none)
    (reads : ReadsBack source.descriptor.baseUrl)
    (queries : before.query = none ∧ next.query = none)
    (slices : (before.timeslice == next.timeslice) = true) (ranges : before.timeRange = next.timeRange)
    (known : KnownRelations source.descriptor.geoColumn before.filters)
    (known' : KnownRelations source.descriptor.geoColumn next.filters)
    (shown : tileUrl source.descriptor before now = .ok url)
    (built : tileUrl source.descriptor next now = .ok later) :
    source.canReuse (some before) next (some url) = .ok true ↔ url = later := by
  have plain {s : Selection} (none : s.query = none) : ∀ q ∈ s.query, q.HasBalancedValues := by
    rw [none]
    exact nofun
  obtain ⟨recovered, found⟩ := exists_fragmentsOf reads shown
  obtain ⟨fragments, hf, -⟩ := tileUrl_eq_ok.1 shown
  obtain ⟨shapes, query, hs, hq, rfl⟩ := tileFragments_eq_ok.1 hf
  obtain ⟨fragments, hg, -⟩ := tileUrl_eq_ok.1 built
  obtain ⟨others, query', ho, hq', rfl⟩ := tileFragments_eq_ok.1 hg
  obtain rfl : none = query := Except.ok.inj (queries.1 ▸ hq)
  obtain rfl : none = query' := Except.ok.inj (queries.2 ▸ hq')
  have window : timeClause source.descriptor before now = timeClause source.descriptor next now :=
    timeClause_congr slices ranges
  have texts : url = later ↔ shapes.map (·.cql) = others.map (·.cql) := by
    rw [tileUrl_eq_iff ⟨rfl, rfl, rfl⟩ hf hg shown built]
    constructor
    · intro same
      have whole := texts_eq_of_join
        (fun f hm => enclosed_of_mem geo time known (plain queries.1) hf hm)
        (fun f hm => enclosed_of_mem geo time known' (plain queries.2) hg hm) same
      simp only [List.map_append, window] at whole
      exact List.append_cancel_right (List.append_cancel_right whole)
    · intro same
      refine join_congr ?_
      simp only [List.map_append, same, window]
  have answer : canReuse source.descriptor (some before) next recovered = .ok true ↔
      shapes.map (·.cql) = others.map (·.cql) := by
    rw [canReuse_tileUrl geo time known (plain queries.1) own shown found]
    constructor
    · rintro ⟨-, -, -, ⟨_, _, hs', ho', same⟩, -⟩
      obtain rfl := Except.ok.inj (hs.symm.trans hs')
      obtain rfl := Except.ok.inj (ho.symm.trans ho')
      exact same
    · intro same
      refine ⟨?_, live, fun _ => ⟨slices, ranges⟩, ⟨shapes, others, hs, ho, same⟩, .inr ?_⟩
      · rw [queries.1, queries.2]
        rfl
      · rw [queries.1]
        exact nofun
  rw [texts, ← answer, LayerSource.canReuse_eq found]

theorem canReuse_iff_tileUrl_eq_hidden :
    let before : Selection := { filters := [emptyShapeFilter "geom" "within"] }
    let next : Selection := { filters := hidden :: before.filters }
    ∃ url later, tileUrl nearby.descriptor before epoch = .ok url ∧
      tileUrl nearby.descriptor next epoch = .ok later ∧ url = later ∧
      nearby.canReuse (some before) next (some url) = .ok true := by
  intro before next
  have first : tileFragments nearby.descriptor before epoch
      = .ok [.spatial "(WITHIN(geom, MULTIPOINT ()))" "geom" false] :=
    tileFragments_eq_ok.2 ⟨_, _, spatialFragments_chosen, rfl, by rw [timeClause_untimed rfl rfl]; rfl⟩
  have second : tileFragments nearby.descriptor next epoch
      = .ok [.spatial "(WITHIN(geom, MULTIPOINT ()))" "geom" false] :=
    tileFragments_eq_ok.2 ⟨_, _, spatialFragments_hidden, rfl, by rw [timeClause_untimed rfl rfl]; rfl⟩
  obtain ⟨url, shown⟩ := exists_tileUrl parse_nearby first
  obtain ⟨later, built⟩ := exists_tileUrl parse_nearby second
  have same : url = later := (tileUrl_eq_iff ⟨rfl, rfl, rfl⟩ first second shown built).2 rfl
  exact ⟨url, later, shown, built, same, (canReuse_iff_tileUrl_eq rfl (by decide) (by decide)
    filterOf_nearby readsBack_nearby ⟨rfl, rfl⟩ rfl rfl (by decide) (by decide) shown built).2 same⟩

theorem tileFragments_empty (d : Descriptor) (now : Instant) : tileFragments d {} now = .ok [] :=
  tileFragments_eq_ok.2 ⟨_, _, rfl, rfl, by rw [timeClause_untimed rfl rfl]; rfl⟩

theorem exists_tileUrl_faraway : ∃ url, tileUrl faraway.descriptor {} epoch = .ok url := by
  obtain ⟨u, parsed, -, -⟩ := parse_faraway
  exact exists_tileUrl parsed (tileFragments_empty _ _)

/-- A service whose name is too long to be read again does not keep the tiles of the same address. -/
theorem canReuse_ne_of_tileUrl_eq :
    let d := faraway.descriptor
    d.nrt = false ∧ PlainColumn d.geoColumn ∧ PlainColumn d.timeColumn ∧
      filterOf d.baseUrl = .ok none ∧ KnownRelations d.geoColumn [] ∧
      ∃ url later, tileUrl d {} epoch = .ok url ∧ tileUrl d {} epoch = .ok later ∧
        url = later ∧ faraway.canReuse (some {}) {} (some url) ≠ .ok true := by
  obtain ⟨url, shown⟩ := exists_tileUrl_faraway
  exact ⟨rfl, by decide, by decide, filterOf_faraway, nofun, url, url, shown, shown, rfl,
    LayerSource.canReuse_ne_ok not_readsBack_faraway shown⟩

/-- A selection keeps its own tiles. The relations of the shapes are known, the query is a text in whose values
the parentheses are balanced, the slice is one that equals itself, and on a layer without a column of times
the query does not look as if it limited one. -/
theorem canReuse_self {source : LayerSource} {s : Selection} {now : Instant} {url : String}
    (live : source.descriptor.nrt = false) (geo : PlainColumn source.descriptor.geoColumn)
    (time : PlainColumn source.descriptor.timeColumn)
    (own : filterOf source.descriptor.baseUrl = .ok none)
    (reads : ReadsBack source.descriptor.baseUrl)
    (known : KnownRelations source.descriptor.geoColumn s.filters)
    (texts : ∀ q ∈ s.query, ∃ text, q = .ofText text)
    (values : ∀ q ∈ s.query, q.HasBalancedValues)
    (slice : source.descriptor.isTimeAware = true → (s.timeslice == s.timeslice) = true)
    (plain : source.descriptor.isTimeAware = true ∨ ∀ f, queryFragment s.query = .ok (some f) →
      Text.occursIn " BETWEEN ".toList f.cql.toList = false)
    (shown : tileUrl source.descriptor s now = .ok url) :
    source.canReuse (some s) s (some url) = .ok true := by
  obtain ⟨recovered, found⟩ := exists_fragmentsOf reads shown
  obtain ⟨fragments, built, -⟩ := tileUrl_eq_ok.1 shown
  obtain ⟨shapes, -, hs, -⟩ := tileFragments_eq_ok.1 built
  have unchanged : queryChanged s.query s.query = false := by
    cases given : s.query with
    | none => rfl
    | some q =>
      obtain ⟨text, rfl⟩ := texts q given
      exact queryChanged_ofText text
  have range (f : CqlFragment) (hf : queryFragment s.query = .ok (some f)) :
      f.reread.isTimeRange = Text.occursIn " BETWEEN ".toList f.cql.toList := by
    rw [CqlFragment.isTimeRange, reread_query values hf, f.reread_cql]
    rfl
  rw [LayerSource.canReuse_eq found, canReuse_tileUrl geo time known values own shown found]
  refine ⟨unchanged, live, fun aware => ⟨slice aware, rfl⟩, ⟨shapes, shapes, hs, hs, rfl⟩, ?_⟩
  exact plain.imp_right fun none f hf => (range f hf).trans (none f hf)

theorem canReuse_self_chosen : ∃ url, tileUrl nearby.descriptor chosen epoch = .ok url ∧
    nearby.canReuse (some chosen) chosen (some url) = .ok true := by
  obtain ⟨url, shown⟩ := exists_tileUrl_chosen
  have texts : ∀ q ∈ chosen.query, ∃ text, q = .ofText text := by
    rintro q ⟨⟩
    exact ⟨_, rfl⟩
  exact ⟨url, shown, canReuse_self rfl (by decide) (by decide) filterOf_nearby readsBack_nearby
    (by decide) texts values_chosen (fun _ => rfl) (.inl rfl) shown⟩

def timeless : LayerSource :=
  { nearby with descriptor := { nearby.descriptor with timeColumn := "" } }

theorem exists_tileUrl_lost {source : LayerSource} {s : Selection} {fragments : List CqlFragment}
    (base : source.descriptor.baseUrl = nearby.descriptor.baseUrl)
    (built : tileFragments source.descriptor s epoch = .ok fragments)
    (lost : canReuse source.descriptor (some s) s (((CqlFragment.join fragments).map split).getD [])
      ≠ .ok true) :
    ∃ url, tileUrl source.descriptor s epoch = .ok url ∧
      source.canReuse (some s) s (some url) ≠ .ok true := by
  obtain ⟨url, shown⟩ := exists_tileUrl (base ▸ parse_nearby) built
  refine ⟨url, shown, fun reused => ?_⟩
  obtain ⟨recovered, found, reused⟩ := LayerSource.canReuse_eq_ok.1 reused
  obtain rfl := fragmentsOf_tileUrl (base ▸ filterOf_nearby) built shown found
  exact lost reused

def unnumbered : Selection :=
  { timeslice := some ⟨.ofBits 0x7FF8000000000000, .ofBits 0x7FF8000000000000⟩ }

theorem slice_unnumbered : (unnumbered.timeslice == unnumbered.timeslice) = false := by cbv

theorem timeClause_unnumbered : timeClause nearby.descriptor unnumbered epoch = none := by cbv

/-- A selection does not keep its own tiles on a layer that is not live. The columns are plain, the
relations are known and the query is a text. -/
structure LayerSource.LosesOwn (source : LayerSource) (s : Selection) : Prop where
  live : source.descriptor.nrt = false
  geo : PlainColumn source.descriptor.geoColumn
  time : PlainColumn source.descriptor.timeColumn
  own : filterOf source.descriptor.baseUrl = .ok none
  known : KnownRelations source.descriptor.geoColumn s.filters
  texts : ∀ q ∈ s.query, ∃ text, q = .ofText text
  lost : ∃ url, tileUrl source.descriptor s epoch = .ok url ∧
    source.canReuse (some s) s (some url) ≠ .ok true

theorem losesOwn_timeless : timeless.LosesOwn { query := some (asking "x BETWEEN y") } := by
  refine ⟨rfl, by decide, by decide, filterOf_nearby, nofun, ?_, ?_⟩
  · rintro q ⟨⟩
    exact ⟨_, rfl⟩
  · refine exists_tileUrl_lost rfl (tileFragments_unshaped (by decide)) fun reused => ?_
    obtain ⟨-, -, -, shapes, -, -, range⟩ := canReuse_eq_true.1 reused
    revert range
    decide

theorem losesOwn_shapeLike : nearby.LosesOwn { query := some shapeLike } := by
  refine ⟨rfl, by decide, by decide, filterOf_nearby, nofun, ?_, ?_⟩
  · rintro q ⟨⟩
    exact ⟨_, rfl⟩
  · refine exists_tileUrl_lost rfl (tileFragments_unshaped (by decide)) fun reused => ?_
    obtain ⟨-, -, -, shapes, ⟨⟩, texts, -⟩ := canReuse_eq_true.1 reused
    revert texts
    decide

theorem losesOwn_unnumbered : nearby.LosesOwn unnumbered := by
  refine ⟨rfl, by decide, by decide, filterOf_nearby, nofun, nofun, ?_⟩
  have built : tileFragments nearby.descriptor unnumbered epoch = .ok [] :=
    tileFragments_eq_ok.2 ⟨_, _, rfl, rfl, by rw [timeClause_unnumbered]; rfl⟩
  refine exists_tileUrl_lost rfl built fun reused => ?_
  obtain ⟨-, -, times, -⟩ := canReuse_eq_true.1 reused
  have same := (times rfl).1
  rw [slice_unnumbered] at same
  cases same

theorem losesOwn_faraway : faraway.LosesOwn {} := by
  obtain ⟨url, shown⟩ := exists_tileUrl_faraway
  exact ⟨rfl, by decide, by decide, filterOf_faraway, nofun, nofun, url, shown,
    LayerSource.canReuse_ne_ok not_readsBack_faraway shown⟩

/-- A query for a value that looks like a limit of times, on a layer without times, one for a value that
looks like a shape, a slice that is not a number, and a service whose name is too long do not keep their
own tiles. -/
theorem canReuse_self_ne :
    timeless.LosesOwn { query := some (asking "x BETWEEN y") } ∧
      nearby.LosesOwn { query := some shapeLike } ∧ nearby.LosesOwn unnumbered ∧ faraway.LosesOwn {} :=
  ⟨losesOwn_timeless, losesOwn_shapeLike, losesOwn_unnumbered, losesOwn_faraway⟩

end MapLayer
