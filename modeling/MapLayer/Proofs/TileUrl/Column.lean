import MapLayer.Proofs.TileUrl.Reuse

/-! A layer whose column of times is changed. Main statement: tiles that are kept are not those of the
changed layer exactly if it limits times in another column. -/

namespace MapLayer

open MapLayer.Cql

theorem exists_filterOf_base {d : Descriptor} {s : Selection} {now : Instant} {url : String}
    (address : tileUrl d s now = .ok url) : ∃ own, filterOf d.baseUrl = .ok own := by
  obtain ⟨_, -, hu⟩ := tileUrl_eq_ok.1 address
  obtain ⟨u, parsed, -⟩ := GetMap.template_eq_ok hu
  refine ⟨_, filterOf_eq_ok.2 ⟨.ofList u.pairs, ?_, rfl⟩⟩
  rw [queryParams, parsed]

section

variable {column other : String} {start stop : Option String} {f g : CqlFragment}

theorem timeFragment_eq_some (h : timeFragment column start stop = some f) :
    column ≠ "" ∧ ∃ a b, start = some a ∧ stop = some b ∧
      f.cql = "(" ++ (column ++ (" BETWEEN " ++ (a ++ (" AND " ++ (b ++ ")"))))) := by
  unfold timeFragment at h
  split at h
  · cases h
  · rename_i named
    refine ⟨named, ?_⟩
    split at h
    · rename_i a b
      cases h
      exact ⟨a, b, rfl, rfl, by simp [CqlFragment.plain, toString, String.append_assoc]⟩
    · cases h

theorem timeFragment_eq_none_iff (h : timeFragment column start stop = some f) :
    timeFragment other start stop = none ↔ other = "" := by
  obtain ⟨-, a, b, rfl, rfl, -⟩ := timeFragment_eq_some h
  unfold timeFragment
  split <;> simp_all

theorem timeFragment_cql_inj (hf : timeFragment column start stop = some f)
    (hg : timeFragment other start stop = some g) : f.cql = g.cql ↔ column = other := by
  obtain ⟨-, a, b, rfl, rfl, left⟩ := timeFragment_eq_some hf
  obtain ⟨-, a, b, ⟨⟩, ⟨⟩, right⟩ := timeFragment_eq_some hg
  rw [left, right, String.append_right_inj, String.append_left_inj]

end

variable {d : Descriptor} {s : Selection} {now : Instant} {url later column : String}
  {recovered : List CqlFragment}

/-- A limit of times is found in an address if the shapes found there are those of the selection. -/
theorem any_isTimeRange_of_texts (time : PlainColumn d.timeColumn) {shapes : List CqlFragment}
    {f : CqlFragment} (limited : timeClause d s now = some f)
    (hs : spatialFragments d.geoColumn s.filters = .ok shapes)
    (shown : tileUrl d s now = .ok url) (found : fragmentsOf (some url) = .ok recovered)
    (texts : (recovered.filter (·.isSpatial)).map (·.cql) = shapes.map (·.cql)) :
    recovered.any CqlFragment.isTimeRange = true := by
  obtain ⟨own, base⟩ := exists_filterOf_base shown
  obtain ⟨fragments, built, -⟩ := tileUrl_eq_ok.1 shown
  obtain ⟨_, query, again, -, rfl⟩ := tileFragments_eq_ok.1 built
  obtain rfl := Except.ok.inj (hs.symm.trans again)
  obtain ⟨_, asked, rfl⟩ := fragmentsOf_eq_ok.1 found
  obtain rfl := filterOf_tileUrl built shown base asked
  -- Each shape is the text of something that was found, which is a run of parentheses.
  have enclosed : ∀ g ∈ shapes ++ (timeClause d s now).toList, Enclosed g.cql.toList := by
    intro g hg
    rcases List.mem_append.1 hg with hg | hg
    · have text : g.cql ∈ shapes.map (·.cql) := List.mem_map_of_mem hg
      rw [← texts] at text
      obtain ⟨r, hr, same⟩ := List.mem_map.1 text
      exact same ▸ enclosed_of_mem_split (List.mem_filter.1 hr).1
    · exact (isTimeClause_of_window (Option.mem_toList.1 hg)).2.enclosed time.1
  have clause : f ∈ shapes ++ (timeClause d s now).toList := by simp [limited]
  have joined : (CqlFragment.join (shapes ++ (timeClause d s now).toList ++ query.toList)).or own
      = CqlFragment.join (shapes ++ (timeClause d s now).toList ++ query.toList) := by
    cases whole : CqlFragment.join (shapes ++ (timeClause d s now).toList ++ query.toList) with
    | none => simp [limited, CqlFragment.join] at whole
    | some => rfl
  have range := (isTimeClause_of_window limited).2.isTimeRange time.1
  rw [joined, split_join_append enclosed, List.any_append, Bool.or_eq_true]
  exact .inl (List.any_eq_true.2 ⟨_, List.mem_map_of_mem clause, range⟩)

def Descriptor.timedBy (d : Descriptor) (column : String) : Descriptor :=
  { d with timeColumn := column }

/-- Tiles that are kept when the column of times of the layer was changed are those of the changed layer,
unless it limits times in a column that it did not have before. -/
theorem tileUrl_eq_iff_of_canReuse (time : PlainColumn d.timeColumn)
    (shown : tileUrl d s now = .ok url)
    (built : tileUrl (d.timedBy column) s now = .ok later)
    (found : fragmentsOf (some url) = .ok recovered)
    (reused : canReuse (d.timedBy column) (some s) s recovered = .ok true) :
    later = url ↔ column = d.timeColumn ∨ timeClause (d.timedBy column) s now = none := by
  obtain ⟨-, -, -, shapes, hs, texts, range⟩ := canReuse_eq_true.1 reused
  obtain ⟨fragments, hf, -⟩ := tileUrl_eq_ok.1 shown
  obtain ⟨_, query, again, hq, rfl⟩ := tileFragments_eq_ok.1 hf
  obtain rfl := Except.ok.inj (hs.symm.trans again)
  obtain ⟨fragments, hg, -⟩ := tileUrl_eq_ok.1 built
  obtain ⟨_, _, again, hq', rfl⟩ := tileFragments_eq_ok.1 hg
  obtain rfl := Except.ok.inj (hs.symm.trans again)
  obtain rfl := Except.ok.inj (hq.symm.trans hq')
  rw [tileUrl_eq_iff (d := d.timedBy column) (e := d) ⟨rfl, rfl, rfl⟩ hg hf built shown, List.append_assoc, List.append_assoc,
    join_append_left, join_optional]
  cases after : timeClause (d.timedBy column) s now with
  | none =>
    refine iff_of_true ?_ (.inr rfl)
    cases before : timeClause d s now with
    | none => rfl
    | some f =>
      -- The column was cleared, so that no limit of times may be found.
      have cleared : column = "" := (timeFragment_eq_none_iff before).1 after
      have limited := any_isTimeRange_of_texts time before hs shown found texts
      rcases range with aware | none
      · rw [Descriptor.isTimeAware, Descriptor.timedBy, cleared] at aware
        cases aware
      · rw [limited] at none
        cases none
  | some g =>
    cases before : timeClause d s now with
    | none =>
      refine iff_of_false (by simp) ?_
      rintro (same | none)
      · subst same
        cases before.symm.trans after
      · cases none
    | some f =>
      have texts : g.cql = f.cql ↔ column = d.timeColumn := timeFragment_cql_inj after before
      simpa using texts

/-- With no time chosen a column of times makes no difference. -/
theorem tileUrl_eq_of_canReuse_untimed : ∃ url later,
    tileUrl nearby.descriptor {} epoch = .ok url ∧
      tileUrl (nearby.descriptor.timedBy "taken") {} epoch = .ok later ∧ later = url := by
  have window : timeClause (nearby.descriptor.timedBy "taken") {} epoch = none :=
    timeClause_untimed rfl rfl
  have before : tileFragments nearby.descriptor {} epoch = .ok [] :=
    tileFragments_eq_ok.2 ⟨_, _, rfl, rfl, by rw [timeClause_untimed rfl rfl]; rfl⟩
  have after : tileFragments (nearby.descriptor.timedBy "taken") {} epoch = .ok [] :=
    tileFragments_eq_ok.2 ⟨_, _, rfl, rfl, by rw [window]; rfl⟩
  obtain ⟨url, shown⟩ := exists_tileUrl parse_nearby before
  obtain ⟨later, built⟩ := exists_tileUrl (d := nearby.descriptor.timedBy "taken") parse_nearby after
  obtain ⟨recovered, found⟩ := exists_fragmentsOf readsBack_nearby shown
  have reused : canReuse (nearby.descriptor.timedBy "taken") (some {}) {} recovered = .ok true := by
    obtain rfl := fragmentsOf_tileUrl filterOf_nearby before shown found
    exact canReuse_eq_true.2 ⟨rfl, rfl, fun _ => ⟨rfl, rfl⟩, [], rfl, rfl, .inl rfl⟩
  exact ⟨url, later, shown, built,
    (tileUrl_eq_iff_of_canReuse (by decide) shown built found reused).2 (.inr window)⟩

def timed : Selection := { timeRange := some ⟨"now", "now"⟩ }

theorem tileFragments_timed (column : String) :
    tileFragments (nearby.descriptor.timedBy column) timed epoch
      = .ok (timeFragment column (some "1970-01-01T00:00:00.000Z")
          (some "1970-01-01T00:00:00.000Z")).toList :=
  tileFragments_eq_ok.2 ⟨[], none, rfl, rfl, by rw [timeClause_epoch rfl rfl]; simp; rfl⟩

/-- The tiles of a layer are kept with another column of times, although the changed layer has others. -/
def Descriptor.KeepsOthers (d : Descriptor) (s : Selection) (now : Instant) (column : String) : Prop :=
  ∃ url later recovered, tileUrl d s now = .ok url ∧ tileUrl (d.timedBy column) s now = .ok later ∧
    fragmentsOf (some url) = .ok recovered ∧
    canReuse (d.timedBy column) (some s) s recovered = .ok true ∧ later ≠ url

theorem keepsOthers_timed {column : String} (hc : column ∈ ["", "time"]) :
    (nearby.descriptor.timedBy column).KeepsOthers timed epoch "taken" := by
  have before := tileFragments_timed column
  have after := tileFragments_timed "taken"
  obtain ⟨url, shown⟩ := exists_tileUrl (d := nearby.descriptor.timedBy column) parse_nearby before
  obtain ⟨later, built⟩ := exists_tileUrl (d := nearby.descriptor.timedBy "taken") parse_nearby after
  obtain ⟨recovered, found⟩ :=
    exists_fragmentsOf (d := nearby.descriptor.timedBy column) readsBack_nearby shown
  refine ⟨url, later, recovered, shown, built, found, ?_, ?_⟩
  · obtain rfl := fragmentsOf_tileUrl (d := nearby.descriptor.timedBy column) filterOf_nearby before
      shown found
    refine canReuse_eq_true.2 ⟨rfl, rfl, fun _ => ⟨rfl, rfl⟩, [], rfl, ?_, .inl rfl⟩
    clear before shown found
    revert column
    decide
  · intro same
    have joined := (tileUrl_eq_iff (d := nearby.descriptor.timedBy "taken")
      (e := nearby.descriptor.timedBy column) ⟨rfl, rfl, rfl⟩ after before built shown).1 same
    clear before shown found
    revert column
    decide

/-- A column of times that is added or renamed can leave tiles on the map that are not those of the
changed layer. -/
theorem tileUrl_ne_of_canReuse_renamed :
    PlainColumn "" ∧ PlainColumn "time" ∧ PlainColumn "taken" ∧
      (nearby.descriptor.timedBy "").KeepsOthers timed epoch "taken" ∧
      (nearby.descriptor.timedBy "time").KeepsOthers timed epoch "taken" :=
  ⟨by decide, by decide, by decide, keepsOthers_timed (by decide), keepsOthers_timed (by decide)⟩

end MapLayer
