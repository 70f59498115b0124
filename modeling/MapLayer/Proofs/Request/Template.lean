import MapLayer.Proofs.Url.Written
import MapLayer.Request.GetMap

/-! The parameters in addresses of tiles. Main statement: they are those of the service's address, those of
the request and the placeholder, unless a fragment swallows the last. -/

namespace MapLayer

open MapLayer.Text

namespace Url

theorem mem_appendAll {query : List Char} {added : List (String × String)} {c : Char}
    (h : c ∈ Form.appendAll query added) :
    c ∈ query ∨ c = '&' ∨ c = '=' ∨ Form.isPlain c = true ∨ c = '+' ∨ c = '%' := by
  unfold Form.appendAll at h
  induction added generalizing query with
  | nil => exact .inl h
  | cons pair added ih =>
    rcases ih h with h | h
    · rcases List.mem_append.1 h with h | h
      · split at h
        · cases h
        · rcases List.mem_append.1 h with h | h
          · exact .inl h
          · exact .inr (.inl (List.mem_singleton.1 h))
      · rcases List.mem_append.1 h with h | h
        · exact .inr (.inr (.inr (Form.mem_encode h)))
        · rcases List.mem_cons.1 h with rfl | h
          · exact .inr (.inr (.inl rfl))
          · exact .inr (.inr (.inr (Form.mem_encode h)))
    · exact .inr h

theorem kept_of_form {c : Char}
    (h : c = '&' ∨ c = '=' ∨ Form.isPlain c = true ∨ c = '+' ∨ c = '%') (special : Bool) :
    queryMust special c = false := by
  rcases h with rfl | rfl | plain | rfl | rfl
  · cases special <;> decide
  · cases special <;> decide
  · simp only [Form.isPlain, Bool.or_eq_true, beq_iff_eq] at plain
    rcases plain with (((letter | rfl) | rfl) | rfl) | rfl
    · exact (must_of_isAlphanum letter).2 special
    all_goals cases special <;> decide
  · cases special <;> decide
  · cases special <;> decide

variable {u : Url}

theorem Normal.appendPairs (n : Normal u) (added : List (String × String)) :
    Normal (u.appendPairs added) := by
  refine ⟨n.scheme, n.authority, n.path, ?_, n.fragment⟩
  rintro _ ⟨⟩ c hc
  rcases mem_appendAll hc with hc | form
  · cases given : u.query with
    | none =>
      rw [given] at hc
      cases hc
    | some q =>
      rw [given] at hc
      exact n.query q given c hc
  · exact kept_of_form form u.isSpecial

def extended (u : Url) (more : List Char) : Url :=
  match u.fragment with
  | none => { u with query := some (u.query.getD [] ++ more) }
  | some f => { u with fragment := some (f ++ more) }

theorem chars_extended {q : List Char} (hq : u.query = some q) (more : List Char) :
    (u.extended more).chars = u.chars ++ more := by
  cases given : u.fragment with
  | none => simp [extended, given, chars, target, hq]
  | some f => simp [extended, given, chars, target, hq]

theorem Normal.extended (n : Normal u) {more : List Char}
    (query : ∀ c ∈ more, queryMust u.isSpecial c = false)
    (fragment : ∀ c ∈ more, fragmentMust c = false) : Normal (u.extended more) := by
  unfold Url.extended
  split
  · refine ⟨n.scheme, n.authority, n.path, ?_, n.fragment⟩
    rintro _ ⟨⟩ c hc
    rcases List.mem_append.1 hc with hc | hc
    · cases given : u.query with
      | none =>
        rw [given] at hc
        cases hc
      | some q =>
        rw [given] at hc
        exact n.query q given c hc
    · exact query c hc
  · rename_i f given
    refine ⟨n.scheme, n.authority, n.path, n.query, ?_⟩
    rintro _ ⟨⟩ c hc
    rcases List.mem_append.1 hc with hc | hc
    · exact n.fragment f given c hc
    · exact fragment c hc

end Url

namespace GetMap

/-- What follows the parameters of a request in the address of its tiles. -/
def extent : List Char := "&bbox=".toList ++ placeholder.toList

def extentParameter : List Char :=
  ['b', 'b', 'o', 'x', '=', '\x7b', 'b', 'b', 'o', 'x', '-', 'e', 'p', 's', 'g', '-', '3', '8', '5',
    '7', '\x7d']

theorem extent_eq : extent = '&' :: extentParameter := by decide +kernel

/-- The placeholder as a parameter, unless it belongs to a fragment. -/
def extentPairs (u : Url) : List (String × String) :=
  if u.fragment.isNone then [("bbox", placeholder)] else []

def tiles (r : GetMap) (u : Url) : Url := (u.appendPairs r.params).extended extent

theorem template_eq_ok {r : GetMap} {base text : String} (h : r.template base = .ok text) :
    ∃ u, Url.parse base.toList = .ok u ∧ text.toList = (r.tiles u).chars := by
  obtain ⟨v, hv, h⟩ := Outcome.bind_eq_ok.1 h
  cases h
  unfold buildUrl at hv
  split at hv
  · rename_i u parsed
    cases hv
    have asked : (u.appendPairs r.params).query
        = some (Url.Form.appendAll (u.query.getD []) r.params) := rfl
    refine ⟨u, parsed, ?_⟩
    rw [tiles, Url.chars_extended asked, String.toList_append, String.toList_append, Url.text,
      String.toList_ofList, List.append_assoc]
    rfl
  · cases hv

theorem normal_tiles {u : Url} (n : u.Normal) (r : GetMap) : (r.tiles u).Normal := by
  have query : ∀ special, ∀ c ∈ '&' :: extentParameter, Url.queryMust special c = false := by
    decide +kernel
  have fragment : ∀ c ∈ '&' :: extentParameter, Url.fragmentMust c = false := by decide +kernel
  rw [tiles, extent_eq]
  exact (n.appendPairs r.params).extended (query _) fragment

theorem pairs_extent : Url.Form.pairs extentParameter = [("bbox", placeholder)] := by
  decide +kernel

theorem pairs_tiles (r : GetMap) (u : Url) :
    (r.tiles u).pairs = u.pairs ++ r.params ++ extentPairs u := by
  have added : (u.appendPairs r.params).pairs = u.pairs ++ r.params := by
    rw [Url.pairs, Url.appendPairs, Option.getD_some, Url.Form.pairs_appendAll, Url.pairs]
  cases given : u.fragment with
  | none =>
    have parts : (r.tiles u).pairs
        = Url.Form.pairs (Url.Form.appendAll (u.query.getD []) r.params
          ++ '&' :: extentParameter) := by
      simp [tiles, Url.extended, Url.appendPairs, given, Url.pairs, extent_eq]
    rw [parts, Url.Form.pairs_joined, pairs_extent, Url.Form.pairs_appendAll]
    simp [extentPairs, given, Url.pairs]
  | some f =>
    have parts : (r.tiles u).pairs = (u.appendPairs r.params).pairs := by
      simp [tiles, Url.extended, Url.appendPairs, given, Url.pairs]
    rw [parts, added]
    simp [extentPairs, given]

theorem query_tiles (r : GetMap) (u : Url) : ∃ q, (r.tiles u).query = some q := by
  unfold tiles Url.extended
  split
  · exact ⟨_, rfl⟩
  · exact ⟨_, rfl⟩

theorem hierarchy_tiles (r : GetMap) (u : Url) :
    (r.tiles u).scheme = u.scheme ∧ (r.tiles u).hierarchy = u.hierarchy := by
  cases given : u.fragment with
  | none => simp [tiles, Url.extended, Url.appendPairs, given, Url.hierarchy]
  | some f => simp [tiles, Url.extended, Url.appendPairs, given, Url.hierarchy]

end GetMap

/-- An address of a service that can be read again once it has been written with a query. -/
def ReadsBack (base : String) : Prop :=
  ∃ u v, buildUrl base [] = .ok u ∧ Url.parse u.chars = .ok v

theorem readsBack_iff {base : String} {u : Url} (parsed : Url.parse base.toList = .ok u) :
    ReadsBack base ↔ ∃ host, Url.parts u.scheme u.hierarchy false = .ok host := by
  have built : buildUrl base [] = .ok (u.appendPairs []) := by rw [buildUrl, parsed]
  have read := ((Url.normal_of_parse parsed).appendPairs []).parse_chars rfl
  unfold ReadsBack
  constructor
  · rintro ⟨_, v, hb, hv⟩
    rw [built] at hb
    cases hb
    rw [read] at hv
    obtain ⟨host, hh, -⟩ := Outcome.bind_eq_ok.1 hv
    exact ⟨host, hh⟩
  · rintro ⟨host, hh⟩
    exact ⟨_, _, built, read.trans (Outcome.bind_eq_ok.2 ⟨host, hh, rfl⟩)⟩

theorem queryParams_eq_ok {u : Url} (n : u.Normal) {q : List Char} (hq : u.query = some q)
    {text : String} (chars : text.toList = u.chars) {params : Keyed String} :
    queryParams text = .ok params ↔
      (∃ host, Url.parts u.scheme u.hierarchy false = .ok host) ∧ params = .ofList u.pairs := by
  rw [queryParams, chars, n.parse_chars hq]
  cases Url.parts u.scheme u.hierarchy false with
  | error fault =>
    constructor
    · intro h
      cases h
    · rintro ⟨⟨_, h⟩, -⟩
      cases h
  | ok host =>
    constructor
    · intro h
      cases h
      exact ⟨⟨host, rfl⟩, rfl⟩
    · rintro ⟨-, rfl⟩
      rfl

/-- The address of tiles is read exactly if that of the service reads back, and its parameters are those
of the service and the request. -/
theorem queryParams_template {r : GetMap} {base text : String} (built : r.template base = .ok text) :
    ∃ u, Url.parse base.toList = .ok u ∧
      (ReadsBack base ↔ ∃ params, queryParams text = .ok params) ∧
      ∀ params, queryParams text = .ok params →
        params = .ofList (u.pairs ++ r.params ++ GetMap.extentPairs u) := by
  obtain ⟨u, parsed, chars⟩ := GetMap.template_eq_ok built
  obtain ⟨q, hq⟩ := GetMap.query_tiles r u
  obtain ⟨scheme, hierarchy⟩ := GetMap.hierarchy_tiles r u
  have normal := GetMap.normal_tiles (Url.normal_of_parse parsed) r
  have read (params : Keyed String) : queryParams text = .ok params ↔ _ :=
    queryParams_eq_ok normal hq chars
  rw [scheme, hierarchy, GetMap.pairs_tiles] at read
  refine ⟨u, parsed, ?_, fun params h => ((read params).1 h).2⟩
  rw [readsBack_iff parsed]
  exact ⟨fun host => ⟨_, (read _).2 ⟨host, rfl⟩⟩, fun ⟨params, h⟩ => ((read params).1 h).1⟩

end MapLayer
