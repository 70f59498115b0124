import MapLayer.Proofs.Request.Filled
import MapLayer.Proofs.Url.Ascii

/-! Tiles that are asked for by filling a template in. Main statement: the parameter for the extent is the
placeholder before and the box after, as long as what becomes of the address can be read. -/

namespace MapLayer

open MapLayer.Text MapLayer.Url

variable {base : String} {own : Url}

theorem BoundingBox.plain_text (b : BoundingBox) :
    ∀ c ∈ b.text.toList, c ≠ '&' ∧ c ≠ '+' ∧ c ≠ '%' := by
  intro c hc
  refine ⟨?_, ?_, ?_⟩
  all_goals
    rintro rfl
    exact b.not_mem_text (by decide) hc

namespace Url.Form

theorem decode_eq_self {s : List Char} (plus : '+' ∉ s) (percent : '%' ∉ s) : decode s = s := by
  have same : (s.map fun c => if c = '+' then ' ' else c) = s := by
    refine (List.map_congr_left fun c hc => if_neg ?_).trans (List.map_id' s)
    rintro rfl
    exact plus hc
  rw [decode, same, percentDecode_of_not_mem percent, Utf8.decode_encode]

theorem pairs_extent {value : String}
    (plain : ∀ c ∈ value.toList, c ≠ '&' ∧ c ≠ '+' ∧ c ≠ '%') :
    pairs ("bbox".toList ++ '=' :: value.toList) = [("bbox", value)] := by
  have single : '&' ∉ "bbox".toList ++ '=' :: value.toList := by
    intro member
    rcases List.mem_append.1 member with member | member
    · revert member
      decide
    · rcases List.mem_cons.1 member with h | member
      · cases h
      · exact (plain _ member).1 rfl
  have name : decode "bbox".toList = "bbox".toList := decode_eq_self (by decide) (by decide)
  have kept : decode value.toList = value.toList :=
    decode_eq_self (fun h => (plain _ h).2.1 rfl) (fun h => (plain _ h).2.2 rfl)
  rw [pairs, pieces_of_not_mem single, List.filter_cons_of_pos (by simp), List.filter_nil,
    List.map_singleton, decodePair, cut?_append (by decide)]
  simp only [name, kept, String.ofList_toList]

/-- A box as a parameter. Its commas are not encoded. -/
theorem pairs_box (b : BoundingBox) :
    pairs ("bbox".toList ++ '=' :: b.text.toList) = [("bbox", b.text)] :=
  pairs_extent b.plain_text

end Url.Form

namespace Keyed

variable {α : Type} {entries : List (String × α)} {k : String} {v : α}

theorem lookup_of_mem (distinct : (entries.map (·.1)).Nodup) (h : (k, v) ∈ entries) :
    entries.lookup k = some v := by
  induction entries with
  | nil => cases h
  | cons e entries ih =>
    obtain ⟨j, w⟩ := e
    obtain ⟨new, distinct⟩ := List.nodup_cons.1 distinct
    rw [lookup_cons]
    rcases List.mem_cons.1 h with same | member
    · obtain ⟨rfl, rfl⟩ := Prod.mk.inj same
      rw [if_pos rfl]
    · rw [if_neg, ih distinct member]
      rintro rfl
      exact new (List.mem_map.2 ⟨_, member, rfl⟩)

end Keyed

namespace GetMap

theorem params_distinct (r : GetMap) :
    (r.params.map (·.1)).Nodup ∧ "bbox" ∉ r.params.map (·.1) := by
  unfold params
  cases r.sldBody <;> cases nonempty r.cqlFilter <;> simp

variable {r : GetMap} {others : List (String × String)} {value : String}

theorem get?_extent : (Keyed.ofList (others ++ [("bbox", value)])).get? "bbox" = some value := by
  rw [Keyed.get?_ofList_eq_lookup, List.reverse_append, List.reverse_singleton,
    List.singleton_append, Keyed.lookup_cons, if_pos rfl]

theorem get?_param {p : String × String} (hp : p ∈ r.params) :
    (Keyed.ofList (others ++ r.params ++ [("bbox", value)])).get? p.1 = some p.2 := by
  obtain ⟨distinct, apart⟩ := r.params_distinct
  have other : p.1 ≠ "bbox" := fun same => apart (same ▸ List.mem_map_of_mem hp)
  have turned : (r.params.reverse.map (·.1)).Nodup := by
    rw [List.map_reverse]
    exact List.nodup_reverse.2 distinct
  have found := Keyed.lookup_of_mem turned (List.mem_reverse.2 hp)
  rw [Keyed.get?_ofList_eq_lookup, List.reverse_append, List.reverse_singleton,
    List.singleton_append, Keyed.lookup_cons, if_neg other, List.reverse_append,
    List.lookup_append, found, Option.some_or]

theorem tiles_of_whole (r : GetMap) {u : Url} (whole : u.fragment = none) :
    (r.tiles u).fragment = none ∧ (r.tiles u).query
      = some (Form.appendAll (u.query.getD []) r.params ++ '&' :: extentParameter) := by
  simp [tiles, Url.extended, Url.appendPairs, whole, extent_eq]

theorem pairs_filledIn (r : GetMap) {u : Url} (whole : u.fragment = none) (b : BoundingBox) :
    ∃ others, ((r.tiles u).filledIn b).pairs = others ++ [("bbox", b.text)] := by
  refine ⟨Form.pairs (filled b (Form.appendAll (u.query.getD []) r.params)), ?_⟩
  rw [Url.pairs, filledIn, (r.tiles_of_whole whole).2, Option.map_some, Option.getD_some,
    filled_append_cons b (by decide), filled_extentParameter, Form.pairs_joined, Form.pairs_box]

end GetMap

/-- What is made of a template for a box is read exactly if the address of the service can be read with the
box, and then asks for it. -/
theorem queryParams_fillTemplate (parsed : Url.parse base.toList = .ok own)
    (whole : own.fragment = none) {r : GetMap} {text : String} (built : r.template base = .ok text)
    (b : BoundingBox) : ReadsFilled base b ↔
      ∃ params, queryParams (fillTemplate text b) = .ok params ∧
        params.get? "bbox" = some b.text := by
  obtain ⟨u, again, chars⟩ := GetMap.template_eq_ok built
  obtain rfl : own = u := Except.ok.inj (parsed.symm.trans again)
  have normal := GetMap.normal_tiles (normal_of_parse parsed) r
  obtain ⟨unfragmented, query⟩ := r.tiles_of_whole whole
  obtain ⟨scheme, hierarchy⟩ := r.hierarchy_tiles own
  have filledChars : (fillTemplate text b).toList = ((r.tiles own).filledIn b).chars := by
    rw [fillTemplate_eq, chars, chars_filledIn normal query unfragmented]
  obtain ⟨q, filledQuery⟩ : ∃ q, ((r.tiles own).filledIn b).query = some q :=
    ⟨_, congrArg (Option.map (filled b)) query⟩
  have filledHierarchy : ((r.tiles own).filledIn b).hierarchy = filled b own.hierarchy := by
    rw [← hierarchy]
    rfl
  have filledScheme : ((r.tiles own).filledIn b).scheme = own.scheme := scheme
  have read (params : Keyed String) : queryParams (fillTemplate text b) = .ok params ↔ _ :=
    queryParams_eq_ok (normal.filledIn b) filledQuery filledChars
  rw [filledHierarchy, filledScheme] at read
  obtain ⟨others, pairs⟩ := r.pairs_filledIn whole b
  rw [readsFilled_iff parsed whole]
  constructor
  · intro host
    refine ⟨_, (read _).2 ⟨host, rfl⟩, ?_⟩
    rw [pairs]
    exact GetMap.get?_extent
  · rintro ⟨params, found, -⟩
    exact ((read params).1 found).1

theorem GetMap.exists_template (parsed : Url.parse base.toList = .ok own) (r : GetMap) :
    ∃ text, r.template base = .ok text := by
  rw [template, buildUrl_eq_ok parsed]
  exact ⟨_, rfl⟩

/-- The address of tiles of a service without a fragment asks for its extent and whatever else the request
asks for, exactly if the address of the service reads back. Filled in it asks for the box, exactly if that
address can be read filled in, as it can be if it reads back and no host holds the placeholder. -/
theorem queryParams_tile (parsed : Url.parse base.toList = .ok own) (whole : own.fragment = none)
    (r : GetMap) : ∃ text, r.template base = .ok text ∧
      (ReadsBack base ↔ ∃ params, queryParams text = .ok params ∧
        params.get? "bbox" = some GetMap.placeholder ∧
        ∀ p ∈ r.params, params.get? p.1 = some p.2) ∧
      (∀ b, ReadsFilled base b ↔ ∃ params, queryParams (fillTemplate text b) = .ok params ∧
        params.get? "bbox" = some b.text) ∧
      (ReadsBack base → occursIn GetMap.placeholder.toList (own.authority.getD []) = false →
        ∀ b, ReadsFilled base b) := by
  obtain ⟨text, built⟩ := GetMap.exists_template parsed r
  refine ⟨text, built, ⟨fun reads => ?_, ?_⟩, queryParams_fillTemplate parsed whole built,
    readsFilled_of_readsBack parsed whole⟩
  · obtain ⟨u, again, readable, asked⟩ := queryParams_template built
    obtain rfl : own = u := Except.ok.inj (parsed.symm.trans again)
    obtain ⟨params, read⟩ := readable.1 reads
    have extent : GetMap.extentPairs own = [("bbox", GetMap.placeholder)] := by
      rw [GetMap.extentPairs, whole]
      rfl
    have entries := asked params read
    rw [extent] at entries
    rw [entries] at read
    exact ⟨_, read, GetMap.get?_extent, fun p => GetMap.get?_param⟩
  · rintro ⟨params, read, -⟩
    obtain ⟨-, -, readable, -⟩ := queryParams_template built
    exact readable.2 ⟨params, read⟩

theorem queryParams_tile_ownBox :
    let base := "http://[::1]/wms?bbox=0,0,1,1"
    let r : GetMap := { layer := "mines", cqlFilter := some "(a=1)", sldBody := some "<sld/>" }
    ∃ own, Url.parse base.toList = .ok own ∧ own.fragment = none ∧ ReadsBack base ∧
      occursIn GetMap.placeholder.toList (own.authority.getD []) = false ∧
      ∃ text, r.template base = .ok text ∧
        (∃ params, queryParams text = .ok params ∧
          params.get? "bbox" = some GetMap.placeholder ∧
          ∀ p ∈ r.params, params.get? p.1 = some p.2) ∧
        ∀ b, ∃ params, queryParams (fillTemplate text b) = .ok params ∧
          params.get? "bbox" = some b.text := by
  intro base r
  have parsed : Url.parse base.toList = .ok ⟨"http".toList, some "[::1]".toList, "/wms".toList,
      some "bbox=0,0,1,1".toList, none⟩ := by cbv
  have reads : ReadsBack base := readsBack_of_isAscii parsed (by decide) (by decide +kernel)
  have plain : occursIn GetMap.placeholder.toList "[::1]".toList = false := by decide
  obtain ⟨text, built, asked, filled, always⟩ := queryParams_tile parsed rfl r
  exact ⟨_, parsed, rfl, reads, plain, text, built, asked.1 reads,
    fun b => (filled b).1 (always reads plain b)⟩

theorem webHost_ipv4 {host name : List Char} (plain : IsName host) (ascii : Domain.asciiName? host = some name)
    (filled : name ≠ []) (numbers : endsInNumber name = true) (refused : ipv4Value? name = none) :
    webHost host = .error .invalidIpv4 := by
  rw [webHost_name plain ascii filled, numbers, refused]
  rfl

/-- The address of a service whose host is called like the placeholder. -/
theorem parse_placeholder : Url.parse (addressOn GetMap.placeholder.toList).toList
    = .ok ⟨"http".toList, some GetMap.placeholder.toList, "/wms".toList, none, none⟩ := by
  have plain : IsName GetMap.placeholder.toList := by
    unfold IsName
    decide +kernel
  have ascii : Domain.asciiName? GetMap.placeholder.toList = some GetMap.placeholder.toList :=
    Domain.asciiName?_small (by decide +kernel) (by decide +kernel)
  exact parse_addressOn plain (webHost_eq_ok plain ascii (by decide) (by decide +kernel))

theorem not_readsFilled_placeholder :
    ¬ReadsFilled (addressOn GetMap.placeholder.toList) ⟨0, 0, 0, 0.5⟩ := by
  let b : BoundingBox := ⟨0, 0, 0, 0.5⟩
  have text : b.text = "0,0,0,0.5" := by decide +kernel
  have plain : IsName b.text.toList := by
    rw [text]
    unfold IsName
    decide +kernel
  have ascii : Domain.asciiName? b.text.toList = some b.text.toList := by
    rw [text]
    exact Domain.asciiName?_small (by decide +kernel) (by decide +kernel)
  have refused : webHost b.text.toList = .error .invalidIpv4 :=
    webHost_ipv4 plain ascii b.text_ne_nil (by rw [text]; decide +kernel)
      (by rw [text]; decide +kernel)
  have filledHost : filled b ("//".toList ++ GetMap.placeholder.toList ++ "/wms".toList)
      = "//".toList ++ b.text.toList ++ "/wms".toList := by
    have behind := filled_append_cons b (c := '/') (by decide) GetMap.placeholder.toList "wms".toList
    rw [filled_placeholder, filled_of_braceless b (s := "wms".toList) (by decide)] at behind
    exact (filled_cons b (by decide) _).trans (congrArg ('/' :: ·)
      ((filled_cons b (by decide) _).trans (congrArg ('/' :: ·) behind)))
  rw [readsFilled_iff parse_placeholder rfl]
  rintro ⟨host, read⟩
  have again := parts_name plain false
  rw [refused, ← filledHost] at again
  have whole := again.symm.trans read
  cases whole

/-- The extent is not among the parameters of a template if the address of the service does not read back,
if it has a fragment, or if it becomes part of the host. -/
theorem queryParams_tile_lost :
    let r : GetMap := { layer := "mines" }
    let asks (text value : String) :=
      ∃ params, queryParams text = .ok params ∧ params.get? "bbox" = some value
    (∃ text, r.template (addressOn longName) = .ok text ∧ ¬asks text GetMap.placeholder) ∧
    (∃ text, r.template (addressOn GetMap.placeholder.toList) = .ok text ∧
      ¬asks (fillTemplate text ⟨0, 0, 0, 0.5⟩) "0,0,0,0.5") ∧
    (∃ text, r.template "http://[::1]/wms#top" = .ok text ∧ ¬asks text GetMap.placeholder) := by
  intro r asks
  refine ⟨?_, ?_, ?_⟩
  · obtain ⟨all, filled, short, long⟩ := longName_spec
    obtain ⟨text, made⟩ := GetMap.exists_template (parse_ideographs all filled short) r
    obtain ⟨-, -, readable, -⟩ := queryParams_template made
    refine ⟨text, made, fun ⟨params, read, _⟩ => ?_⟩
    exact not_readsBack_ideographs all filled short long (readable.2 ⟨params, read⟩)
  · obtain ⟨text, made⟩ := GetMap.exists_template parse_placeholder r
    have same : (⟨0, 0, 0, 0.5⟩ : BoundingBox).text = "0,0,0,0.5" := by decide +kernel
    refine ⟨text, made, fun asked => not_readsFilled_placeholder ?_⟩
    rw [queryParams_fillTemplate parse_placeholder rfl made, same]
    exact asked
  · have parsed : Url.parse "http://[::1]/wms#top".toList = .ok ⟨"http".toList, some "[::1]".toList,
        "/wms".toList, none, some "top".toList⟩ := by cbv
    obtain ⟨text, made⟩ := GetMap.exists_template parsed r
    obtain ⟨own, again, -, entries⟩ := queryParams_template made
    obtain rfl := Except.ok.inj (parsed.symm.trans again)
    refine ⟨text, made, fun ⟨params, read, value⟩ => ?_⟩
    rw [entries params read, Keyed.get?_ofList_eq_lookup] at value
    revert value
    decide +kernel

end MapLayer
