import MapLayer.Proofs.Request.Tile

/-!
Templates of tiles and what is made of them for a box. Main statement: the placeholder stands at the end of
a template and nowhere else, so that filling it in changes the extent and nothing else.
-/

namespace MapLayer

open MapLayer.Text MapLayer.Url

namespace Text

variable {mark s before after : List Char} {c : Char}

theorem occursIn_append_cons (outside : c ∉ mark) (s t : List Char) :
    occursIn mark (s ++ c :: t) = (occursIn mark s || occursIn mark t) := by
  rw [occursIn, occursIn, occursIn, cut?_append_cons outside]
  cases cut? mark s with
  | some parts => rfl
  | none => exact Option.isSome_map

theorem not_occursIn_of_not_mem (inside : c ∈ mark) (absent : c ∉ s) : occursIn mark s = false := by
  rw [occursIn, cut?_eq_none_of_not_mem inside absent]
  rfl

/-- A mark behind a text that does not hold it, with another character between, stands nowhere else. -/
theorem append_mark_eq_iff (outside : c ∉ mark) (absent : occursIn mark s = false) :
    before ++ mark ++ after = s ++ c :: mark ↔ before = s ++ [c] ∧ after = [] := by
  have apart (front back : List Char) : s ≠ front ++ mark ++ back := by
    rintro rfl
    rw [occursIn_append] at absent
    cases absent
  constructor
  · intro same
    rw [List.append_assoc, List.append_cons s, List.append_eq_append_iff] at same
    obtain ⟨x, text, rest⟩ | ⟨x, text, rest⟩ := same
    · rcases List.eq_nil_or_concat x with rfl | ⟨x, d, rfl⟩
      · simp_all
      · -- a mark that begins earlier ends before the character or holds it
        rw [List.concat_eq_append, ← List.append_assoc] at text
        obtain ⟨rfl, rfl⟩ := List.append_inj' text rfl |>.imp id List.singleton_inj.1
        rw [List.concat_eq_append, List.append_assoc, List.append_eq_append_iff] at rest
        obtain ⟨y, rfl, -⟩ | ⟨y, whole, later⟩ := rest
        · exact absurd (List.append_assoc before mark y).symm (apart before y)
        · cases y with
          | nil => exact absurd (by simp [whole]) (apart before [])
          | cons e y =>
            obtain ⟨rfl, -⟩ := List.cons.inj later
            exact absurd (by simp [whole]) outside
    · have lengths := congrArg List.length rest
      simp only [List.length_append] at lengths
      obtain ⟨rfl, rfl⟩ : x = [] ∧ after = [] :=
        ⟨List.length_eq_zero_iff.1 (by omega), List.length_eq_zero_iff.1 (by omega)⟩
      exact ⟨by simpa using text, rfl⟩
  · rintro ⟨rfl, rfl⟩
    simp

end Text

namespace Url.Form

variable {mark query : List Char}

/-- Parameters are written without braces, so that no placeholder comes in with them. -/
theorem not_occursIn_appendAll (brace : '\x7b' ∈ mark) (outside : '&' ∉ mark)
    (absent : occursIn mark query = false) (added : List (String × String)) :
    occursIn mark (appendAll query added) = false := by
  have pair (p : String × String) : occursIn mark (encodePair p) = false := by
    refine not_occursIn_of_not_mem brace fun member => ?_
    rcases List.mem_append.1 member with member | member
    · rcases mem_encode member with h | h | h <;> (revert h; decide)
    · rcases List.mem_cons.1 member with h | member
      · cases h
      · rcases mem_encode member with h | h | h <;> (revert h; decide)
  unfold appendAll
  induction added generalizing query with
  | nil => exact absent
  | cons p added ih =>
    refine ih ?_
    rw [append]
    split
    · exact pair p
    · rw [List.append_assoc, List.singleton_append, occursIn_append_cons outside, absent, pair]
      rfl

end Url.Form

variable {base text : String} {own u : Url} {q : List Char}

theorem queryParams_chars (n : u.Normal) (hq : u.query = some q) (chars : text.toList = u.chars) :
    queryParams text = match Url.parts u.scheme u.hierarchy false with
      | .ok _ => .ok (.ofList u.pairs)
      | .error fault => .error (badUrl "url" text fault) := by
  rw [queryParams, chars, n.parse_chars hq]
  cases Url.parts u.scheme u.hierarchy false <;> rfl

theorem Keyed.ofList_concat_put {α : Type} (entries : List (String × α)) (k : String) (v w : α) :
    (Keyed.ofList (entries ++ [(k, v)])).put k w = Keyed.ofList (entries ++ [(k, w)]) := by
  refine Keyed.ext fun j => ?_
  simp only [Keyed.get?_put, Keyed.get?_ofList, Keyed.lastOf_concat]
  split <;> rfl

namespace GetMap

variable (r : GetMap)

def upToExtent (own : Url) : String := (own.appendPairs r.params).text ++ "&bbox="

/-- The address of tiles that asks for some extent, given that of a service without a fragment. -/
def asking (own : Url) (value : String) : Url where
  scheme := own.scheme
  authority := own.authority
  path := own.path
  query := some (Form.appendAll (own.query.getD []) r.params
    ++ '&' :: ("bbox".toList ++ '=' :: value.toList))
  fragment := none

theorem template_eq (parsed : Url.parse base.toList = .ok own) :
    r.template base = .ok (r.upToExtent own ++ placeholder) := by
  rw [template, buildUrl_eq_ok parsed]
  rfl

theorem upToExtent_chars (own : Url) : (r.upToExtent own).toList
    = ((own.appendPairs r.params).chars ++ '&' :: "bbox".toList) ++ ['='] := by
  rw [upToExtent, String.toList_append, Url.text, String.toList_ofList, List.append_assoc]
  rfl

theorem chars_asking (whole : own.fragment = none) (value : String) :
    (r.upToExtent own ++ value).toList = (r.asking own value).chars := by
  rw [String.toList_append, upToExtent_chars]
  simp [Url.chars, Url.target, asking, Url.appendPairs, whole]

/-- An extent that is written as it is. -/
structure IsLiteral (value : String) : Prop where
  kept : ∀ c ∈ value.toList, ∀ special, Url.queryMust special c = false
  plain : ∀ c ∈ value.toList, c ≠ '&' ∧ c ≠ '+' ∧ c ≠ '%'

theorem isLiteral_placeholder : IsLiteral placeholder := by
  have chars : placeholder.toList = extentParameter.drop 5 := by decide
  constructor
  · rw [chars]
    decide +kernel
  · rw [chars]
    decide +kernel

theorem isLiteral_box (b : BoundingBox) : IsLiteral b.text :=
  ⟨fun c hc special => b.queryMust_text special c hc, b.plain_text⟩

theorem normal_asking (n : own.Normal) {value : String} (literal : IsLiteral value) :
    (r.asking own value).Normal := by
  have appended := n.appendPairs r.params
  refine ⟨n.scheme, n.authority, n.path, ?_, nofun⟩
  rintro _ ⟨⟩ c hc
  rcases List.mem_append.1 hc with hc | hc
  · exact appended.query _ rfl c hc
  · rcases List.mem_cons.1 hc with rfl | hc
    · exact kept_of_form (.inl rfl) _
    · rcases List.mem_append.1 hc with hc | hc
      · have plain : ∀ c ∈ "bbox".toList, Form.isPlain c = true := by decide
        exact kept_of_form (.inr (.inr (.inl (plain c hc)))) _
      · rcases List.mem_cons.1 hc with rfl | hc
        · exact kept_of_form (.inr (.inl rfl)) _
        · exact literal.kept c hc _

theorem pairs_asking (own : Url) {value : String} (literal : IsLiteral value) :
    (r.asking own value).pairs = own.pairs ++ r.params ++ [("bbox", value)] := by
  rw [Url.pairs, asking, Option.getD_some, Form.pairs_joined, Form.pairs_appendAll,
    Form.pairs_extent literal.plain]
  rfl

theorem queryParams_asking (n : own.Normal) (whole : own.fragment = none) {value : String}
    (literal : IsLiteral value) : queryParams (r.upToExtent own ++ value)
      = match Url.parts own.scheme own.hierarchy false with
        | .ok _ => .ok (.ofList (own.pairs ++ r.params ++ [("bbox", value)]))
        | .error fault => .error (badUrl "url" (r.upToExtent own ++ value) fault) := by
  rw [← r.pairs_asking own literal]
  exact queryParams_chars (r.normal_asking n literal) rfl (r.chars_asking whole value)

theorem not_occursIn_appendPairs (whole : own.fragment = none)
    (absent : occursIn placeholder.toList own.chars = false) :
    occursIn placeholder.toList (own.appendPairs r.params).chars = false := by
  obtain ⟨front, query⟩ : occursIn placeholder.toList (own.scheme ++ ':' :: own.hierarchy) = false ∧
      occursIn placeholder.toList (own.query.getD []) = false := by
    have text : own.chars = own.scheme ++ ':' :: own.hierarchy
        ++ (own.query.map fun q => '?' :: q).getD [] := by
      simp [Url.chars, Url.target, Url.hierarchy, whole]
    rw [text] at absent
    cases given : own.query with
    | none => exact ⟨by simpa [given] using absent, by decide⟩
    | some q =>
      rw [given, Option.map_some, Option.getD_some, occursIn_append_cons (by decide)] at absent
      exact Bool.or_eq_false_iff.1 absent
  have text : (own.appendPairs r.params).chars = (own.scheme ++ ':' :: own.hierarchy)
      ++ '?' :: Form.appendAll (own.query.getD []) r.params := by
    simp [Url.chars, Url.target, Url.hierarchy, Url.appendPairs, whole]
  rw [text, occursIn_append_cons (by decide), front, Bool.false_or]
  exact Form.not_occursIn_appendAll (by decide) (by decide) query r.params

theorem not_occursIn_upToExtent (whole : own.fragment = none)
    (absent : occursIn placeholder.toList own.chars = false) :
    occursIn placeholder.toList ((own.appendPairs r.params).chars ++ '&' :: "bbox".toList) = false := by
  rw [occursIn_append_cons (by decide), r.not_occursIn_appendPairs whole absent, Bool.false_or]
  decide

theorem fillTemplate_upToExtent (whole : own.fragment = none)
    (absent : occursIn placeholder.toList own.chars = false) (b : BoundingBox) :
    fillTemplate (r.upToExtent own ++ placeholder) b = r.upToExtent own ++ b.text := by
  apply String.toList_inj.1
  have front := r.not_occursIn_upToExtent whole absent
  rw [fillTemplate_eq, String.toList_append, String.toList_append, upToExtent_chars, List.append_assoc,
    List.singleton_append, filled_append_cons b (by decide), filled_placeholder, List.append_assoc]
  exact congrArg (· ++ '=' :: b.text.toList) (replace_of_not_occursIn front)

end GetMap

/-- Two addresses of tiles are read alike but for the extent of the second: both have the same parameters
beside it, or both are refused for the same reason. -/
def AlikeButExtent (first second value : String) : Prop :=
  (∃ params, queryParams first = .ok params ∧ queryParams second = .ok (params.put "bbox" value)) ∨
    ∃ fault, queryParams first = .error (badUrl "url" first fault) ∧
      queryParams second = .error (badUrl "url" second fault)

/-- The placeholder is the end of a template and stands nowhere else in it, if the address of the service
does not hold it. Filling it in changes the end alone, and what is read of the address only in the extent. -/
theorem fillTemplate_template (parsed : Url.parse base.toList = .ok own) (whole : own.fragment = none)
    (absent : occursIn GetMap.placeholder.toList own.chars = false) (r : GetMap) :
    ∃ front, r.template base = .ok (front ++ GetMap.placeholder) ∧
      (∀ before after : List Char,
        before ++ GetMap.placeholder.toList ++ after = (front ++ GetMap.placeholder).toList
          ↔ before = front.toList ∧ after = []) ∧
      ∀ b, fillTemplate (front ++ GetMap.placeholder) b = front ++ b.text ∧
        AlikeButExtent (front ++ GetMap.placeholder) (front ++ b.text) b.text := by
  have normal := normal_of_parse parsed
  refine ⟨r.upToExtent own, r.template_eq parsed, fun before after => ?_, fun b => ⟨?_, ?_⟩⟩
  · have once := r.not_occursIn_upToExtent whole absent
    rw [String.toList_append, r.upToExtent_chars, List.append_assoc (_ ++ _) ['=']]
    exact append_mark_eq_iff (by decide) once
  · exact r.fillTemplate_upToExtent whole absent b
  · rw [AlikeButExtent, r.queryParams_asking normal whole GetMap.isLiteral_placeholder,
      r.queryParams_asking normal whole (GetMap.isLiteral_box b)]
    cases Url.parts own.scheme own.hierarchy false with
    | ok host => exact .inl ⟨_, rfl, congrArg Except.ok (Keyed.ofList_concat_put _ _ _ _).symm⟩
    | error fault => exact .inr ⟨fault, rfl, rfl⟩

/-- A request full of placeholders to a service whose own address has an extent and braces. -/
theorem fillTemplate_template_braces :
    let base := "http://[::1]/wms?map=\x7ba\x7d&bbox=1"
    let mark := GetMap.placeholder
    let r : GetMap := { layer := mark, cqlFilter := some ("a=" ++ mark), sldBody := some mark }
    ∃ own, Url.parse base.toList = .ok own ∧ own.fragment = none ∧
      occursIn mark.toList own.chars = false ∧
      ∃ front, r.template base = .ok (front ++ mark) ∧
        (∀ before after : List Char, before ++ mark.toList ++ after = (front ++ mark).toList
          ↔ before = front.toList ∧ after = []) ∧
        ∀ b, fillTemplate (front ++ mark) b = front ++ b.text ∧
          AlikeButExtent (front ++ mark) (front ++ b.text) b.text := by
  intro base mark r
  let own : Url := ⟨"http".toList, some "[::1]".toList, "/wms".toList,
    some "map=\x7ba\x7d&bbox=1".toList, none⟩
  have parsed : Url.parse base.toList = .ok own := by cbv
  have absent : occursIn mark.toList own.chars = false := by decide +kernel
  exact ⟨own, parsed, rfl, absent, fillTemplate_template parsed rfl absent r⟩

end MapLayer
