import MapLayer.Proofs.TileUrl.Exact
import MapLayer.Staleness

/-! Checks of addresses of tiles. Main statement: tiles are stale exactly if the filter has changed, and a
check of a layer that is not live leaves the map alone. -/

namespace MapLayer

open MapLayer.Cql

section

variable {d : Descriptor} {s t : Selection} {now later : Instant} {url current : String}
  {fragments others : List CqlFragment} {before after : Keyed String}

/-- The parameters of two addresses of tiles of one service differ exactly if the filters do. -/
theorem queryParams_eq_iff (own : filterOf d.baseUrl = .ok none)
    (hs : tileFragments d s now = .ok fragments) (ht : tileFragments d t later = .ok others)
    (shown : tileUrl d s now = .ok url) (built : tileUrl d t later = .ok current)
    (hb : queryParams url = .ok before) (ha : queryParams current = .ok after) :
    after = before ↔ CqlFragment.join fragments = CqlFragment.join others := by
  have filter := filterOf_tileUrl hs shown own (filterOf_eq_ok.2 ⟨before, hb, rfl⟩)
  have next := filterOf_tileUrl ht built own (filterOf_eq_ok.2 ⟨after, ha, rfl⟩)
  rw [Option.or_none] at filter next
  constructor
  · rintro rfl
    exact filter.symm.trans next
  · intro same
    obtain rfl := (tileUrl_eq_iff ⟨rfl, rfl, rfl⟩ hs ht shown built).2 same
    exact Except.ok.inj (ha.symm.trans hb)

end

/-- Tiles of a layer that is not live are stale exactly if the filter has changed. The filter is found,
and nothing else happens. -/
theorem check_tileUrl {η : Type} (c : MapContext η) (id : String) (loaded : Bool) (moment : Int)
    {d : Descriptor} {s t : Selection} {now later : Instant} {url current : String}
    {fragments others : List CqlFragment} (live : d.nrt = false)
    (own : filterOf d.baseUrl = .ok none) (reads : ReadsBack d.baseUrl)
    (hs : tileFragments d s now = .ok fragments) (ht : tileFragments d t later = .ok others)
    (shown : tileUrl d s now = .ok url) (built : tileUrl d t later = .ok current) :
    c.check id d (some url) current loaded moment = (c, .ok {
      stale := decide (CqlFragment.join fragments ≠ CqlFragment.join others)
      cql := CqlFragment.join others
      reloads := false }) := by
  obtain ⟨filter, asked⟩ := (readsBack_iff_filterOf shown).1 reads
  obtain ⟨before, hb, -⟩ := filterOf_eq_ok.1 asked
  obtain ⟨next, asked⟩ := (readsBack_iff_filterOf built).1 reads
  obtain ⟨after, ha, rfl⟩ := filterOf_eq_ok.1 asked
  have found := filterOf_tileUrl ht built own asked
  rw [Option.or_none] at found
  have same := queryParams_eq_iff own hs ht shown built hb ha
  have stale : (after != before)
      = decide (CqlFragment.join fragments ≠ CqlFragment.join others) := by
    rw [Bool.eq_iff_iff, bne_iff_ne, decide_eq_true_iff]
    exact not_congr same
  have verdict : MapContext.compareUrls (some url) current = .ok {
      stale := decide (CqlFragment.join fragments ≠ CqlFragment.join others)
      cql := CqlFragment.join others } := by
    simp only [MapContext.compareUrls, ha, hb]
    exact congrArg Except.ok (by rw [stale, found, nonempty_join ht])
  rw [MapContext.check, live, verdict]
  rfl

theorem check_tileUrl_asking : ∃ url current, tileUrl nearby.descriptor {} epoch = .ok url ∧
    tileUrl nearby.descriptor { query := some (asking "x") } epoch = .ok current ∧
    ({} : MapContext Unit).check "mines" nearby.descriptor (some url) current true 0
      = ({}, .ok { stale := true, cql := some "(a='x')", reloads := false }) := by
  have before := tileFragments_empty nearby.descriptor epoch
  have quotable : ∀ c ∈ "x".toList, c ≠ '"' ∧ c ≠ '\\' := by decide
  have after : tileFragments nearby.descriptor { query := some (asking "x") } epoch
      = .ok [askingClause "x"] := tileFragments_unshaped quotable
  obtain ⟨url, shown⟩ := exists_tileUrl parse_nearby before
  obtain ⟨current, built⟩ := exists_tileUrl parse_nearby after
  exact ⟨url, current, shown, built, check_tileUrl {} "mines" true 0 rfl filterOf_nearby
    readsBack_nearby before after shown built⟩

/-- If the name of a service is too long to be read again, a check of its tiles fails, though the filter
is the same. -/
theorem check_tileUrl_faraway :
    let d := faraway.descriptor
    d.nrt = false ∧ filterOf d.baseUrl = .ok none ∧
      (∃ u, Url.parse d.baseUrl.toList = .ok u ∧ u.fragment = none) ∧
      ∃ url, tileUrl d {} epoch = .ok url ∧ ∀ verdict,
        (({} : MapContext Unit).check "mines" d (some url) url true 0).2 ≠ .ok verdict := by
  obtain ⟨url, shown⟩ := exists_tileUrl_faraway
  obtain ⟨u, parsed, -, whole⟩ := parse_faraway
  refine ⟨rfl, filterOf_faraway, ⟨u, parsed, whole⟩, url, shown, fun verdict found => ?_⟩
  have compared : MapContext.compareUrls (some url) url = .ok verdict := found
  obtain ⟨params, read, -⟩ := Outcome.bind_eq_ok.1 compared
  exact not_readsBack_faraway ((readsBack_iff_filterOf shown).2
    ⟨_, filterOf_eq_ok.2 ⟨params, read, rfl⟩⟩)

end MapLayer
