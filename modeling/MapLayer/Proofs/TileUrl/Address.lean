import MapLayer.Proofs.Request.Template
import MapLayer.Proofs.TileUrl.Filter

/-! The addresses of tiles. Main statements: those of one service differ exactly if the filters do, and an
address that can be read asks for the filter it was made with. -/

namespace MapLayer

open MapLayer.Cql

namespace GetMap

variable {base text other : String} {r q : GetMap}

def fixed (r : GetMap) : List (String × String) := ({ r with cqlFilter := none } : GetMap).params

theorem params_eq (r : GetMap) :
    r.params = r.fixed ++ (nonempty r.cqlFilter).toList.map ("cql_filter", ·) := by
  unfold fixed params
  cases nonempty r.cqlFilter <;> simp [nonempty]

theorem lastOf_params (r : GetMap) : Keyed.lastOf "cql_filter" r.params = nonempty r.cqlFilter := by
  have others : Keyed.lastOf "cql_filter" r.fixed = none := by
    unfold fixed
    cases r.sldBody <;> rfl
  rw [params_eq, Keyed.lastOf_append, others]
  cases nonempty r.cqlFilter <;> rfl

theorem lastOf_extentPairs (u : Url) : Keyed.lastOf "cql_filter" (extentPairs u) = none := by
  unfold extentPairs
  split <;> rfl

/-- Only the query of an address of tiles depends on the request. -/
theorem chars_tiles (u : Url) : ∃ front back, ∀ r : GetMap,
    (r.tiles u).chars = front ++ (Url.Form.appendAll (u.query.getD []) r.params ++ back) := by
  refine ⟨u.scheme ++ ':' :: ((u.authority.map fun a => '/' :: '/' :: a).getD [] ++ u.path ++ ['?']),
    (u.fragment.map fun f => '#' :: f).getD [] ++ extent, fun r => ?_⟩
  cases given : u.fragment <;>
    simp [tiles, Url.extended, Url.appendPairs, Url.chars, Url.target, given]

theorem params_eq_of_template (hr : r.template base = .ok text) (hq : q.template base = .ok text) :
    r.params = q.params := by
  obtain ⟨u, parsed, chars⟩ := template_eq_ok hr
  obtain ⟨v, again, same⟩ := template_eq_ok hq
  obtain rfl : u = v := Except.ok.inj (parsed.symm.trans again)
  obtain ⟨front, back, written⟩ := chars_tiles u
  rw [chars, written, written, List.append_cancel_left_eq, List.append_cancel_right_eq] at same
  have pairs := congrArg Url.Form.pairs same
  rw [Url.Form.pairs_appendAll, Url.Form.pairs_appendAll] at pairs
  exact List.append_cancel_left pairs

/-- Requests that differ in the filter alone have the same address exactly if the filters are the
same. -/
theorem template_eq_iff (hr : r.template base = .ok text) (hq : q.template base = .ok other)
    (fixed : r.fixed = q.fixed) : text = other ↔ nonempty r.cqlFilter = nonempty q.cqlFilter := by
  constructor
  · rintro rfl
    rw [← lastOf_params, ← lastOf_params, params_eq_of_template hr hq]
  · intro same
    have params : r.params = q.params := by rw [params_eq, params_eq, fixed, same]
    rw [template, params] at hr
    exact Except.ok.inj (hr.symm.trans hq)

end GetMap

variable {d e : Descriptor} {s t : Selection} {now later : Instant} {url other : String}
  {fragments others : List CqlFragment}

def tileRequest (d : Descriptor) (fragments : List CqlFragment) : GetMap :=
  { layer := d.layer
    cqlFilter := CqlFragment.join fragments
    sldBody := d.style.map (Sld.write d.layer) }

theorem tileUrl_eq_ok : tileUrl d s now = .ok url ↔ ∃ fragments,
    tileFragments d s now = .ok fragments ∧
      (tileRequest d fragments).template d.baseUrl = .ok url :=
  Outcome.bind_eq_ok

theorem cql_ne_empty (built : tileFragments d s now = .ok fragments) {f : CqlFragment}
    (hf : f ∈ fragments) : f.cql ≠ "" := by
  obtain ⟨shapes, query, hs, hq, rfl⟩ := tileFragments_eq_ok.1 built
  suffices opened : ∃ rest, f.cql.toList = '(' :: rest by
    obtain ⟨rest, chars⟩ := opened
    rintro empty
    rw [empty] at chars
    cases chars
  rcases List.mem_append.1 hf with hf | hf
  · rcases List.mem_append.1 hf with hf | hf
    · obtain ⟨relation, ⟨negate, operands, -, rfl⟩, -⟩ := hasRelation_of_mem hs hf
      exact ⟨_, String.toList_ofList⟩
    · obtain ⟨start, stop, rfl⟩ := (isTimeClause_of_window (Option.mem_toList.1 hf)).2
      exact ⟨_, by simp [CqlFragment.plain, toString]; rfl⟩
  · obtain rfl := Option.mem_toList.1 hf
    obtain ⟨q, -, said⟩ := queryFragment_eq_ok hq
    obtain ⟨node, text, -, -, -, rfl⟩ := SourceQuery.fragment_eq_ok said
    exact ⟨_, by simp [CqlFragment.plain]; rfl⟩

theorem join_ne_empty (nonempty : ∀ f ∈ fragments, f.cql ≠ "") :
    CqlFragment.join fragments ≠ some "" := by
  cases fragments with
  | nil => exact nofun
  | cons f fragments =>
    intro joined
    have chars := congrArg String.toList (Option.some.inj joined)
    have first : f.cql.toList ≠ [] := fun e =>
      nonempty f List.mem_cons_self (String.toList_eq_nil_iff.1 e)
    rw [String.toList_intercalate] at chars
    cases fragments with
    | nil => exact first (by simpa using chars)
    | cons g fragments =>
      simp only [List.map_cons, List.intercalate_cons_cons] at chars
      simp at chars

theorem nonempty_join (built : tileFragments d s now = .ok fragments) :
    GetMap.nonempty (CqlFragment.join fragments) = CqlFragment.join fragments := by
  have filled := join_ne_empty fun f hf => cql_ne_empty built hf
  cases joined : CqlFragment.join fragments with
  | none => rfl
  | some filter =>
    rw [joined] at filled
    have some : filter ≠ "" := fun e => filled (e ▸ rfl)
    simp [GetMap.nonempty, some]

/-- The same layer, style and service have the same address of tiles exactly if they have the same
filter. -/
theorem tileUrl_eq_iff (service : e.baseUrl = d.baseUrl ∧ e.layer = d.layer ∧ e.style = d.style)
    (hd : tileFragments d s now = .ok fragments)
    (he : tileFragments e t later = .ok others)
    (hu : tileUrl d s now = .ok url) (hv : tileUrl e t later = .ok other) :
    url = other ↔ CqlFragment.join fragments = CqlFragment.join others := by
  obtain ⟨base, layer, style⟩ := service
  obtain ⟨_, found, hu⟩ := tileUrl_eq_ok.1 hu
  obtain rfl := Except.ok.inj (hd.symm.trans found)
  obtain ⟨_, found, hv⟩ := tileUrl_eq_ok.1 hv
  obtain rfl := Except.ok.inj (he.symm.trans found)
  rw [base] at hv
  have fixed : (tileRequest d fragments).fixed = (tileRequest e others).fixed := by
    simp only [tileRequest, GetMap.fixed, layer, style]
  rw [GetMap.template_eq_iff hu hv fixed, tileRequest, tileRequest, nonempty_join hd,
    nonempty_join he]

theorem filterOf_eq_ok {filter : Option String} : filterOf url = .ok filter ↔
    ∃ params, queryParams url = .ok params ∧ params.get? "cql_filter" = filter := by
  unfold filterOf
  rw [Outcome.bind_eq_ok]
  simp only [Outcome.pure_eq_ok]

/-- An address of tiles that can be read asks for the filter of its selection, or else for that of the
service's own address. -/
theorem filterOf_tileUrl {filter own : Option String} (built : tileFragments d s now = .ok fragments)
    (address : tileUrl d s now = .ok url) (base : filterOf d.baseUrl = .ok own)
    (found : filterOf url = .ok filter) : filter = (CqlFragment.join fragments).or own := by
  obtain ⟨_, again, hu⟩ := tileUrl_eq_ok.1 address
  obtain rfl := Except.ok.inj (built.symm.trans again)
  obtain ⟨u, parsed, -, pairs⟩ := queryParams_template hu
  obtain ⟨params, read, rfl⟩ := filterOf_eq_ok.1 found
  obtain ⟨given, served, rfl⟩ := filterOf_eq_ok.1 base
  rw [queryParams, parsed] at served
  obtain rfl := Except.ok.inj served
  rw [pairs params read, Keyed.get?_ofList, Keyed.get?_ofList, Keyed.lastOf_append,
    Keyed.lastOf_append, GetMap.lastOf_extentPairs, GetMap.lastOf_params, Option.none_or]
  exact congrArg (Option.or · _) (nonempty_join built)

theorem readsBack_iff_filterOf (address : tileUrl d s now = .ok url) :
    ReadsBack d.baseUrl ↔ ∃ filter, filterOf url = .ok filter := by
  obtain ⟨_, -, hu⟩ := tileUrl_eq_ok.1 address
  obtain ⟨u, -, reads, -⟩ := queryParams_template hu
  rw [reads]
  constructor
  · rintro ⟨params, read⟩
    exact ⟨_, filterOf_eq_ok.2 ⟨params, read, rfl⟩⟩
  · rintro ⟨_, found⟩
    obtain ⟨params, read, -⟩ := filterOf_eq_ok.1 found
    exact ⟨params, read⟩

theorem exists_tileUrl {u : Url} (parsed : Url.parse d.baseUrl.toList = .ok u)
    (built : tileFragments d s now = .ok fragments) : ∃ url, tileUrl d s now = .ok url := by
  refine ⟨(u.appendPairs (tileRequest d fragments).params).text ++ "&bbox=" ++ GetMap.placeholder,
    tileUrl_eq_ok.2 ⟨fragments, built, ?_⟩⟩
  rw [GetMap.template, buildUrl, parsed]
  rfl

end MapLayer
