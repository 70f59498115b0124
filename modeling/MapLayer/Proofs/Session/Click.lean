import MapLayer.Proofs.Session.Run
import MapLayer.Proofs.TileUrl.Address

/-!
The filter of a click. Main statement: a click on a source asks for the filter of the last address that
was compared, if it had one, and for no filter that was not seen on a compared address.
-/

namespace MapLayer

theorem lookup_params_clickRequest (source : LayerSource) (map : HostMap) (click : Click) :
    (source.clickRequest map click).params.lookup "cql_filter"
      = GetMap.nonempty source.shownFilter := by
  simp only [LayerSource.clickRequest, FeatureInfo.withFilter, FeatureInfo.params]
  cases GetMap.nonempty source.shownFilter <;> rfl

theorem nonempty_eq_some {filter : Option String} {text : String} :
    GetMap.nonempty filter = some text ↔ filter = some text ∧ text ≠ "" := by
  simp [GetMap.nonempty, Option.filter_eq_some_iff]

def filterIn (url : String) : Option String :=
  match filterOf url with
  | .ok filter => GetMap.nonempty filter
  | .error _ => none

theorem filterIn_eq_some {url filter : String} :
    filterIn url = some filter ↔ filterOf url = .ok (some filter) ∧ filter ≠ "" := by
  unfold filterIn
  cases filterOf url with
  | error e => simp
  | ok found => simp [nonempty_eq_some]

theorem cql_compareUrls {previous : Option String} {current : String} {check : StaleCheck}
    (h : MapContext.compareUrls previous current = .ok check) :
    check.cql = if previous.isSome then filterIn current else none := by
  cases previous with
  | none =>
    cases h
    rfl
  | some previous =>
    obtain ⟨params, read, h⟩ := Outcome.bind_eq_ok.1 h
    obtain ⟨_, -, h⟩ := Outcome.bind_eq_ok.1 h
    obtain rfl := Outcome.pure_eq_ok.1 h
    have found : filterOf current = .ok (params.get? "cql_filter") :=
      filterOf_eq_ok.2 ⟨params, read, rfl⟩
    simp [filterIn, found]

namespace Session

variable {η : Type} {s : Session η} {place : Nat} {source : LayerSource}

/-- The address that a step compares with an earlier one, if it asks about a place. -/
def Step.compared? (place : Nat) : Step η → Option String
  | .isStale q => if q.place = place ∧ q.previous.isSome = true then some q.current else none
  | _ => none

/-- The addresses that were compared. A live source compares none. -/
def compared (source : LayerSource) (place : Nat) (steps : List (Step η)) : List String :=
  if source.descriptor.nrt then [] else steps.filterMap (Step.compared? place)

theorem getLast?_compared_concat (steps : List (Step η)) (x : Step η) :
    ((compared source place (steps ++ [x])).filterMap filterIn).getLast?
      = (if source.descriptor.nrt = false then (x.compared? place).bind filterIn else none).or
        ((compared source place steps).filterMap filterIn).getLast? := by
  unfold compared
  cases source.descriptor.nrt with
  | true => rfl
  | false =>
    simp only [Bool.false_eq_true, if_false, if_true, List.filterMap_append, List.getLast?_append]
    congr 1
    cases seen : x.compared? place with
    | none => simp [seen]
    | some url => cases found : filterIn url <;> simp [seen, found]

theorem source_ask {q : Call} (here : s.sources[q.place]? = some source)
    (succeeds : ∀ a ∈ s.answered? (.isStale q), ∃ check, a.answer = .ok check) :
    ∃ after, (s.step (.isStale q)).sources[q.place]? = some after ∧ after.id = source.id ∧
      after.descriptor = source.descriptor ∧
      after.shownFilter = (if source.descriptor.nrt = false
        then ((Step.isStale q : Step η).compared? q.place).bind filterIn else none).or
          source.shownFilter := by
  obtain ⟨after, verdict, asked, -, sources, comparing, live⟩ := ask_eq here
  obtain ⟨check, rfl⟩ : ∃ check, verdict = .ok check := by
    simpa [answered?, asked] using succeeds
  have seen : check.cql = if source.descriptor.nrt = false
      then ((Step.isStale q : Step η).compared? q.place).bind filterIn else none := by
    cases nrt : source.descriptor.nrt with
    | false =>
      rw [cql_compareUrls (comparing nrt).symm]
      cases previous : q.previous <;> simp [Step.compared?, previous]
    | true =>
      obtain ⟨_, same, unseen⟩ := live nrt
      cases same
      simpa using unseen
  refine ⟨source.sawCheck check, ?_, id_sawCheck source check, ?_, ?_⟩
  · simp [step, asked, sources, here]
  · unfold LayerSource.sawCheck
    split <;> rfl
  · rw [← seen, LayerSource.sawCheck]
    cases check.cql <;> rfl

/-- A source that stays on its map knows the last filter that it saw. -/
theorem source_run (placed : s.Placed) (here : s.sources[place]? = some source)
    {span : List (Step η)} (kept : ∀ x ∈ span, x.keeps source.id)
    (succeeds : s.Succeeds place span) :
    ∃ after, (s.run span).sources[place]? = some after ∧ after.id = source.id ∧
      after.descriptor = source.descriptor ∧
      after.shownFilter
        = ((compared source place span).filterMap filterIn).getLast?.or source.shownFilter := by
  induction span using List.reverseRecOn with
  | nil => exact ⟨source, here, rfl, rfl, by simp [compared]⟩
  | append_singleton span x ih =>
    rw [Succeeds, log_concat] at succeeds
    obtain ⟨before, there, id, descriptor, shown⟩ :=
      ih (fun x hx => kept x (List.mem_append_left _ hx))
        (fun a ha => succeeds a (List.mem_append_left _ ha))
    have keeps : x.keeps before.id := id ▸ kept x (by simp)
    rw [run_concat]
    by_cases asks : ∃ q, x = .isStale q ∧ q.place = place
    · obtain ⟨q, rfl, rfl⟩ := asks
      obtain ⟨after, reached, id', descriptor', shown'⟩ := source_ask there (by
        intro a ha
        have at' : a.place = q.place := by
          obtain ⟨_, -, rfl⟩ := Option.map_eq_some_iff.1 ha
          rfl
        exact succeeds a (List.mem_append_right _ (Option.mem_toList.2 ha)) at')
      refine ⟨after, reached, id'.trans id, descriptor'.trans descriptor, ?_⟩
      rw [shown', shown, descriptor, ← Option.or_assoc, getLast?_compared_concat]
    · have other : ∀ q, x = .isStale q → q.place ≠ place := fun q hx hq => asks ⟨q, hx, hq⟩
      refine ⟨before, getElem?_step (placed_run placed span) there keeps other, id, descriptor, ?_⟩
      have unseen : x.compared? place = none := by
        cases x with
        | isStale q => simp [Step.compared?, other q rfl]
        | _ => rfl
      rw [shown, getLast?_compared_concat, unseen]
      simp

/-- Every click on the source at a place asks for a filter, or for none. -/
def Carries (s : Session η) (place : Nat) (filter : Option String) : Prop :=
  ∃ source, s.sources[place]? = some source ∧ ∀ map click,
    (source.clickRequest map click).params.lookup "cql_filter" = filter

theorem carries_shownFilter (here : s.sources[place]? = some source) :
    s.Carries place (GetMap.nonempty source.shownFilter) :=
  ⟨source, here, fun map click => lookup_params_clickRequest source map click⟩

/-- The filter of a click on a source that had none when the calls began. Nothing is said about a filter
that an address has lost. -/
theorem carries_run (policy : RefreshPolicy) (hasTimer : Bool) {before span : List (Step η)}
    (here : (({ context := { policy, hasTimer } } : Session η).run before).sources[place]?
      = some source)
    (blank : source.shownFilter = none) (kept : ∀ x ∈ span, x.keeps source.id)
    (succeeds : (({ context := { policy, hasTimer } } : Session η).run before).Succeeds place span) :
    ∃ carried, (({ context := { policy, hasTimer } } : Session η).run (before ++ span)).Carries
        place carried ∧
      (∀ url ∈ (compared source place span).getLast?, ∀ filter,
        filterOf url = .ok (some filter) → filter ≠ "" → carried = some filter) ∧
      ∀ filter ∈ carried,
        filter ≠ "" ∧ ∃ url ∈ compared source place span, filterOf url = .ok (some filter) := by
  have opened : ({ context := { policy, hasTimer } } : Session η).Placed := by
    intro id place found
    cases found
  obtain ⟨after, there, -, -, shown⟩ := source_run (placed_run opened before) here kept succeeds
  rw [blank, Option.or_none] at shown
  refine ⟨GetMap.nonempty after.shownFilter, ?_, ?_, ?_⟩
  · rw [run, List.foldl_append]
    exact carries_shownFilter there
  · intro url last filter asks filled
    obtain ⟨earlier, split⟩ := List.getLast?_eq_some_iff.1 last
    have seen : filterIn url = some filter := filterIn_eq_some.2 ⟨asks, filled⟩
    rw [shown, split, List.filterMap_append, List.getLast?_append]
    simp [seen, nonempty_eq_some, filled]
  · intro filter carried
    obtain ⟨known, filled⟩ := nonempty_eq_some.1 carried
    rw [shown] at known
    obtain ⟨url, among, seen⟩ := List.mem_filterMap.1 (List.mem_of_getLast? known)
    exact ⟨filled, url, among, (filterIn_eq_some.1 seen).1⟩

def plainTiles : String := "http://[::1]/wms"

def filteredTiles : String := plainTiles ++ "?cql_filter=a"

theorem filterOf_plainTiles : filterOf plainTiles = .ok none := by cbv

theorem filterOf_filteredTiles : filterOf filteredTiles = .ok (some "a") := by cbv

def addMines (nrt : Bool) : Step Unit :=
  .add "mines" { sourceType := "", baseUrl := plainTiles, layer := "mines", name := "", nrt }

def askMines (previous : Option String) (current : String) : Step Unit :=
  .isStale { place := 0, previous, current, loaded := true, moment := 0 }

def visibleMap : HostMap :=
  { presence := fun _ => .visible, isDrawing := false, unproject := fun x y => (x, y) }

theorem carries_run_filtered : (({} : Session Unit).run ([addMines false] ++
    [askMines none plainTiles, .click visibleMap, askMines (some plainTiles) filteredTiles])).Carries
      0 (some "a") := by
  have kept : ∀ x ∈ [askMines none plainTiles, .click visibleMap,
      askMines (some plainTiles) filteredTiles], x.keeps "mines" := by
    simp [askMines, Step.keeps, visibleMap, MapContext.isGone]
  have answers : ((({} : Session Unit).run [addMines false]).log [askMines none plainTiles,
      .click visibleMap, askMines (some plainTiles) filteredTiles]).map (·.answer)
        = [{ stale := false }, { stale := true, cql := some "a" }].map .ok := by cbv
  have here : (({} : Session Unit).run [addMines false]).sources[0]?
      = some ⟨"mines", { sourceType := "", baseUrl := plainTiles, layer := "mines", name := "" }, none⟩ :=
    rfl
  obtain ⟨carried, carries, last, -⟩ := carries_run {} true here rfl kept
    (succeeds_of_answers answers 0)
  exact last filteredTiles rfl "a" filterOf_filteredTiles (by decide) ▸ carries

/-- A live source and one that compares nothing ask for no filter, though their last address has one. A
source whose last address has lost its filter asks for the one before. -/
theorem carries_ne_last :
    let live := [addMines true, askMines (some plainTiles) filteredTiles]
    let first := [addMines false, askMines none filteredTiles]
    let lost := [addMines false, askMines (some plainTiles) filteredTiles,
      askMines (some filteredTiles) plainTiles]
    filterOf filteredTiles = .ok (some "a") ∧ filterOf plainTiles = .ok none ∧
      (({} : Session Unit).Succeeds 0 live ∧ (({} : Session Unit).run live).Carries 0 none) ∧
      (({} : Session Unit).Succeeds 0 first ∧ (({} : Session Unit).run first).Carries 0 none) ∧
      ({} : Session Unit).Succeeds 0 lost ∧ (({} : Session Unit).run lost).Carries 0 (some "a") := by
  have outcome {steps : List (Step Unit)} {checks : List StaleCheck} {filter : Option String}
      (answers : (({} : Session Unit).log steps).map (·.answer) = checks.map .ok)
      (shown : ((({} : Session Unit).run steps).sources[0]?).map (·.shownFilter) = some filter) :
      ({} : Session Unit).Succeeds 0 steps ∧
        (({} : Session Unit).run steps).Carries 0 (GetMap.nonempty filter) := by
    obtain ⟨source, here, rfl⟩ := Option.map_eq_some_iff.1 shown
    exact ⟨succeeds_of_answers answers 0, carries_shownFilter here⟩
  intro live first lost
  refine ⟨filterOf_filteredTiles, filterOf_plainTiles, ?_, ?_, ?_⟩
  · have answers : (({} : Session Unit).log live).map (·.answer)
        = [{ stale := true }].map .ok := by cbv
    have shown : ((({} : Session Unit).run live).sources[0]?).map (·.shownFilter) = some none := by
      cbv
    exact outcome answers shown
  · have answers : (({} : Session Unit).log first).map (·.answer)
        = [{ stale := false }].map .ok := by cbv
    have shown : ((({} : Session Unit).run first).sources[0]?).map (·.shownFilter) = some none := by
      cbv
    exact outcome answers shown
  · have answers : (({} : Session Unit).log lost).map (·.answer)
        = [{ stale := true, cql := some "a" }, { stale := true }].map .ok := by cbv
    have shown : ((({} : Session Unit).run lost).sources[0]?).map (·.shownFilter)
        = some (some "a") := by cbv
    exact outcome answers shown

end Session

end MapLayer
