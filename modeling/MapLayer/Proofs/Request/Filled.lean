import MapLayer.Proofs.Geometry.Wkt
import MapLayer.Proofs.Request.Parameters
import MapLayer.Proofs.Text.Replace
import MapLayer.Proofs.Url.Rooted

/-! Addresses with the extent of a tile for the placeholder. Main statement: those that read back can be read
with it as well, if it does not become part of the host. -/

namespace MapLayer

open MapLayer.Text MapLayer.Url

/-- A text with the extent of a tile wherever the placeholder occurs. -/
def filled (b : BoundingBox) (s : List Char) : List Char :=
  replace GetMap.placeholder.toList b.text.toList s

namespace BoundingBox

/-- The characters that boxes are written with. -/
def isWritten (c : Char) : Bool := Form.isPlain c || c == ','

theorem isPlain_of_isFigure {c : Char} (h : Decimal.isFigure c = true) : Form.isPlain c = true := by
  simp only [Decimal.isFigure, Bool.or_eq_true, List.contains_iff_mem] at h
  rcases h with digit | sign
  · simp [Form.isPlain, Char.isAlphanum, digit]
  · revert c
    decide

theorem isWritten_text (b : BoundingBox) {c : Char} (h : c ∈ b.text.toList) : isWritten c = true := by
  rw [text, numbers, String.toList_ofList, join_eq_intercalate] at h
  rcases mem_intercalate h with comma | ⟨ds, member, hc⟩
  · rw [List.mem_singleton.1 comma]
    rfl
  · obtain ⟨x, -, rfl⟩ := List.mem_map.1 member
    rw [isWritten, isPlain_of_isFigure (Decimal.isFigure_plain hc), Bool.true_or]

theorem text_ne_nil (b : BoundingBox) : b.text.toList ≠ [] := by
  simp [text, numbers, join]

theorem not_mem_text (b : BoundingBox) {c : Char} (other : isWritten c = false) :
    c ∉ b.text.toList := fun member => by
  rw [b.isWritten_text member] at other
  cases other

theorem queryMust_text (b : BoundingBox) (special : Bool) :
    ∀ c ∈ b.text.toList, queryMust special c = false := by
  intro c hc
  rcases Bool.or_eq_true_iff.1 (b.isWritten_text hc) with plain | comma
  · exact kept_of_form (.inr (.inr (.inl plain))) special
  · rw [beq_iff_eq.1 comma]
    cases special <;> decide

theorem unmarked_text (b : BoundingBox) : Unmarked b.text.toList := by
  intro c hc
  obtain ⟨visible, hash⟩ := visible_of_queryMust (b.queryMust_text false c hc)
  refine ⟨hash, ?_, Nat.le_of_lt visible⟩
  rintro rfl
  exact b.not_mem_text (by decide) hc

end BoundingBox

section

variable {b : BoundingBox} {s : List Char}

theorem fillTemplate_eq (template : String) (b : BoundingBox) :
    (fillTemplate template b).toList = filled b template.toList := String.toList_ofList

theorem filled_append_cons (b : BoundingBox) {c : Char}
    (outside : c ∉ GetMap.placeholder.toList) (s t : List Char) :
    filled b (s ++ c :: t) = filled b s ++ c :: filled b t := replace_append_cons outside s t

theorem filled_cons (b : BoundingBox) {c : Char} (outside : c ∉ GetMap.placeholder.toList)
    (t : List Char) : filled b (c :: t) = c :: filled b t :=
  (filled_append_cons b outside [] t).trans
    (congrArg (· ++ c :: filled b t) replace_nil)

theorem filled_of_braceless (b : BoundingBox) (braceless : '\x7b' ∉ s) : filled b s = s :=
  replace_of_not_mem (by decide) braceless

theorem head?_of_filled (first : (filled b s).head? = some '/') : s.head? = some '/' := by
  have start : (filled b s).head? = s.head? ∨ (filled b s).head? = b.text.toList.head? :=
    head?_replace b.text_ne_nil
  obtain same | new := start
  · exact same.symm.trans first
  · have member := List.mem_of_mem_head? (new.symm.trans first)
    exact absurd member (b.not_mem_text (by decide))

theorem after?_slashes_filled (b : BoundingBox) (single : after? ['/', '/'] s = none) :
    after? ['/', '/'] (filled b s) = none := by
  cases double : after? ['/', '/'] (filled b s) with
  | none => rfl
  | some rest =>
    have chars : filled b s = '/' :: '/' :: rest := after?_eq_some_iff.1 double
    obtain ⟨t, rfl⟩ := List.head?_eq_some_iff.1 (head?_of_filled (s := s) (by rw [chars]; rfl))
    rw [filled_cons b (by decide)] at chars
    have tail : filled b t = '/' :: rest := (List.cons_inj_right _).1 chars
    obtain ⟨t, rfl⟩ := List.head?_eq_some_iff.1 (head?_of_filled (s := t) (by rw [tail]; rfl))
    cases single

theorem filled_placeholder (b : BoundingBox) :
    filled b GetMap.placeholder.toList = b.text.toList := replace_mark (by decide)

theorem filled_extentParameter (b : BoundingBox) :
    filled b GetMap.extentParameter = "bbox".toList ++ '=' :: b.text.toList := by
  have split : GetMap.extentParameter = "bbox".toList ++ '=' :: GetMap.placeholder.toList := by decide
  rw [split, filled_append_cons b (by decide), filled_placeholder,
    filled_of_braceless b (by decide)]

end

namespace Url

variable {u : Url} {q : List Char}

/-- An address with the extent of a tile wherever the placeholder occurs. Host and path are filled in as
one text. -/
def filledIn (u : Url) (b : BoundingBox) : Url where
  scheme := u.scheme
  authority := none
  path := filled b u.hierarchy
  query := u.query.map (filled b)
  fragment := none

theorem Normal.filledIn (n : Normal u) (b : BoundingBox) : Normal (u.filledIn b) := by
  refine ⟨n.scheme, nofun, ?_, ?_, nofun⟩
  · intro c hc
    rcases mem_replace hc with hc | hc
    · exact n.unmarked_hierarchy c hc
    · exact b.unmarked_text c hc
  · intro p hp c hc
    obtain ⟨q, hq, rfl⟩ := Option.map_eq_some_iff.1 hp
    rcases mem_replace hc with hc | hc
    · exact n.query q hq c hc
    · exact b.queryMust_text _ c hc

theorem chars_filledIn (n : Normal u) (hq : u.query = some q) (whole : u.fragment = none)
    (b : BoundingBox) : filled b u.chars = (u.filledIn b).chars := by
  have scheme : filled b u.scheme = u.scheme := by
    refine filled_of_braceless b fun member => ?_
    have brace := n.scheme.chars _ member
    revert brace
    decide
  have query : (u.filledIn b).query = some (filled b q) := by rw [Url.filledIn, hq]; rfl
  have unfragmented : (u.filledIn b).fragment = none := rfl
  rw [Normal.chars_eq hq, Normal.chars_eq query, whole, unfragmented, Normal.ending, Normal.ending]
  simp only [Option.map_none, Option.getD_none, List.append_nil]
  rw [filled_append_cons b (by decide), filled_append_cons b (by decide), scheme]
  rfl

end Url

/-- The address of a service can be read with the extent of a tile for the placeholder, where it holds
that itself, once it has been written with a query. -/
def ReadsFilled (base : String) (b : BoundingBox) : Prop :=
  ∃ u v, buildUrl base [] = .ok u ∧ Url.parse (fillTemplate u.text b).toList = .ok v

variable {base : String} {own : Url}

theorem readsFilled_iff (parsed : Url.parse base.toList = .ok own) (whole : own.fragment = none)
    (b : BoundingBox) : ReadsFilled base b ↔
      ∃ host, Url.parts own.scheme (filled b own.hierarchy) false = .ok host := by
  have built := buildUrl_eq_ok parsed []
  have normal := (normal_of_parse parsed).appendPairs []
  have chars : (fillTemplate (own.appendPairs []).text b).toList
      = ((own.appendPairs []).filledIn b).chars := by
    rw [fillTemplate_eq, Url.text, String.toList_ofList, chars_filledIn normal rfl whole]
  have read := (normal.filledIn b).parse_chars (q := filled b (own.query.getD [])) rfl
  unfold ReadsFilled
  constructor
  · rintro ⟨_, v, hb, hv⟩
    rw [built] at hb
    cases hb
    rw [chars, read] at hv
    obtain ⟨host, hh, -⟩ := Outcome.bind_eq_ok.1 hv
    exact ⟨host, hh⟩
  · rintro ⟨host, hh⟩
    exact ⟨_, _, built, (congrArg Url.parse chars).trans
      (read.trans (Outcome.bind_eq_ok.2 ⟨host, hh, rfl⟩))⟩

/-- The extent of a tile does not change an address that holds the placeholder neither in its host nor
before it, so that it can be read if it can be read without. -/
theorem readsFilled_of_readsBack (parsed : Url.parse base.toList = .ok own)
    (whole : own.fragment = none) (reads : ReadsBack base)
    (plain : occursIn GetMap.placeholder.toList (own.authority.getD []) = false) (b : BoundingBox) :
    ReadsFilled base b := by
  rw [readsFilled_iff parsed whole]
  obtain ⟨host, read⟩ := (readsBack_iff parsed).1 reads
  obtain ⟨scheme, hierarchy, query, fragment, -, -, built, rfl, -, -⟩ := parse_eq_ok parsed
  obtain ⟨fits, unruly⟩ := fits_parts built
  rw [Url.hierarchy] at read ⊢
  cases given : own.authority with
  | some a =>
    rw [given] at read fits plain
    have path : filled b (a ++ own.path) = a ++ own.path := by
      obtain start | ⟨rest, start⟩ := fits.start
      · rw [start, List.append_nil]
        exact replace_of_not_occursIn plain
      · have braceless := filled_of_braceless b fits.braceless
        rw [start, filled_cons b (by decide)] at braceless
        rw [start, filled_append_cons b (by decide), (List.cons_inj_right _).1 braceless]
        exact congrArg (· ++ '/' :: rest) (replace_of_not_occursIn plain)
    refine ⟨host, ?_⟩
    simp only [Option.map_some, Option.getD_some, List.cons_append] at read ⊢
    rwa [filled_cons b (by decide), filled_cons b (by decide), path]
  | none =>
    rw [given] at fits
    obtain ⟨web, file⟩ := unruly given
    obtain ⟨p, ok⟩ := plainParts_eq_ok own.scheme (after?_slashes_filled b fits) false
    refine ⟨(none, p), ?_⟩
    rw [parts, if_neg (by simp [web]), if_neg (by simp [file])]
    exact ok

end MapLayer
