import MapLayer.Proofs.Request.ReadsBack

/-! The parameters of addresses that were built. Main statement: they are those of the service and then
those that were added, whatever their texts, if the address of the service reads back. -/

namespace MapLayer

open MapLayer.Url

namespace Keyed

variable {α : Type}

theorem get?_ofList_eq_lookup (k : String) (entries : List (String × α)) :
    (ofList entries).get? k = entries.reverse.lookup k := by
  rw [get?_ofList]
  induction entries using List.reverseRecOn with
  | nil => rfl
  | append_singleton entries e ih =>
    obtain ⟨j, v⟩ := e
    rw [List.reverse_append, List.reverse_singleton, List.singleton_append, lookup_cons, ← ih, lastOf,
      List.foldl_append]
    rfl

end Keyed

variable {base : String} {own : Url} {added : List (String × String)} {params : Keyed String}

theorem buildUrl_eq_ok (parsed : Url.parse base.toList = .ok own) (added : List (String × String)) :
    buildUrl base added = .ok (own.appendPairs added) := by rw [buildUrl, parsed]

theorem queryParams_appendPairs (parsed : Url.parse base.toList = .ok own) :
    queryParams (own.appendPairs added).text = .ok params ↔
      ReadsBack base ∧ params = .ofList (own.pairs ++ added) := by
  have chars : (own.appendPairs added).text.toList = (own.appendPairs added).chars :=
    String.toList_ofList
  have normal := (normal_of_parse parsed).appendPairs added
  have pairs : (own.appendPairs added).pairs = own.pairs ++ added := Form.pairs_appendAll _ _
  rw [queryParams_eq_ok normal rfl chars, pairs, readsBack_iff parsed]
  rfl

/-- An address built from that of a service has the service's parameters and then those added, of which
the last one of a name counts, exactly if the service's address reads back. -/
theorem queryParams_buildUrl (parsed : Url.parse base.toList = .ok own)
    (added : List (String × String)) : ∃ u, buildUrl base added = .ok u ∧
      (ReadsBack base ↔ ∃ params, queryParams u.text = .ok params ∧
        ∀ name, params.get? name = (own.pairs ++ added).reverse.lookup name) := by
  refine ⟨_, buildUrl_eq_ok parsed added, fun reads => ?_, fun ⟨_, read, _⟩ => ?_⟩
  · exact ⟨_, (queryParams_appendPairs parsed).2 ⟨reads, rfl⟩,
      fun name => Keyed.get?_ofList_eq_lookup name _⟩
  · exact ((queryParams_appendPairs parsed).1 read).1

theorem queryParams_buildUrl_marked :
    let base := "http://[::1]/wms?map=a+b&&x#top"
    let added := [("map", "&=+%#\x7bé\x7d"), ("", "")]
    ∃ own, Url.parse base.toList = .ok own ∧ own.pairs = [("map", "a b"), ("x", "")] ∧
      ReadsBack base ∧ ∃ u, buildUrl base added = .ok u ∧
        ∃ params, queryParams u.text = .ok params ∧
          ∀ name, params.get? name = (own.pairs ++ added).reverse.lookup name := by
  intro base added
  have parsed : Url.parse base.toList = .ok ⟨"http".toList, some "[::1]".toList, "/wms".toList,
      some "map=a+b&&x".toList, some "top".toList⟩ := by cbv
  have reads : ReadsBack base := readsBack_of_isAscii parsed (by decide) (by decide +kernel)
  obtain ⟨u, built, read⟩ := queryParams_buildUrl parsed added
  exact ⟨_, parsed, by cbv, reads, u, built, read.1 reads⟩

/-- The parameters of an address whose host has too long a name to be read again are lost. -/
theorem queryParams_buildUrl_longName : ∃ u, buildUrl (addressOn longName) [("a", "b")] = .ok u ∧
    ∀ params, queryParams u.text ≠ .ok params := by
  obtain ⟨all, filled, short, long⟩ := longName_spec
  have parsed := parse_ideographs all filled short
  refine ⟨_, buildUrl_eq_ok parsed _, fun params read => ?_⟩
  exact not_readsBack_ideographs all filled short long ((queryParams_appendPairs parsed).1 read).1

end MapLayer
