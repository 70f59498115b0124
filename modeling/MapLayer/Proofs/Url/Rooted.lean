import MapLayer.Proofs.Url.Parts

/-! Where paths start. Main statement: the path behind a host starts with a slash and holds no brace, and
one without a host does not start with two slashes. -/

namespace MapLayer.Url

open MapLayer.Text

/-- A path that starts with a slash, if at all, and holds no opening brace. -/
structure Rooted (p : List Char) : Prop where
  start : p = [] ∨ ∃ rest, p = '/' :: rest
  braceless : '\x7b' ∉ p

theorem braceless_encodedPath (s : List Char) : '\x7b' ∉ percentEncode pathMust s := by
  intro member
  rcases mem_percentEncode member with ⟨-, kept⟩ | h | letter
  · revert kept
    decide
  · cases h
  · revert letter
    decide

theorem braceless_segmentsText (segments : List (List Char)) : '\x7b' ∉ segmentsText segments := by
  intro member
  obtain ⟨segment, -, member⟩ := List.mem_flatMap.1 member
  rcases List.mem_cons.1 member with h | member
  · cases h
  · exact braceless_encodedPath segment member

theorem rooted_segmentsText (segments : List (List Char)) : Rooted (segmentsText segments) := by
  refine ⟨?_, braceless_segmentsText segments⟩
  cases segments with
  | nil => exact .inl rfl
  | cons s segments => exact .inr ⟨_, rfl⟩

theorem rooted_filePath (segments : List (List Char)) : Rooted (filePath segments) := by
  refine ⟨.inr ⟨_, rfl⟩, fun member => ?_⟩
  rcases List.mem_cons.1 member with h | member
  · cases h
  · exact braceless_segmentsText segments ((List.dropWhile_sublist _).subset member)

theorem rooted_webParts {scheme s a p : List Char} (h : webParts scheme s = .ok (a, p)) :
    Rooted p := by
  obtain ⟨_, -, h⟩ := Outcome.bind_eq_ok.1 h
  cases h
  exact rooted_segmentsText _

theorem rooted_fileParts {s a p : List Char} (h : fileParts s = .ok (a, p)) : Rooted p := by
  unfold fileParts at h
  split at h
  · split at h
    · unfold hostedFile at h
      dsimp only at h
      split at h
      · cases h
        exact rooted_filePath _
      · split at h
        · cases h
          exact rooted_filePath _
        · obtain ⟨_, -, h⟩ := Outcome.bind_eq_ok.1 h
          cases h
          exact rooted_filePath _
    · cases h
      exact rooted_filePath _
  · cases h
    exact rooted_filePath _
  · cases h
    exact rooted_filePath _

/-- How a path goes with a host: rooted behind one, and else not with two slashes at its start. -/
def Fits : Option (List Char) → List Char → Prop
  | some _, p => Rooted p
  | none, p => after? ['/', '/'] p = none

theorem after?_eq_none_of_head? {c : Char} {front s : List Char} (other : s.head? ≠ some c) :
    after? (c :: front) s = none := by
  cases s with
  | nil => rfl
  | cons d s =>
    rw [after?, if_neg]
    rintro rfl
    exact other rfl

theorem head?_percentEncode {must : Char → Bool} {s : List Char} (other : s.head? ≠ some '/') :
    (percentEncode must s).head? ≠ some '/' := by
  cases s with
  | nil => exact other
  | cons c s =>
    rw [percentEncode, List.flatMap_cons]
    split
    · obtain ⟨b, bs, bytes⟩ : ∃ b bs, Utf8.encodeChar c = b :: bs := by
        unfold Utf8.encodeChar
        dsimp only
        split_ifs <;> exact ⟨_, _, rfl⟩
      simp [bytes, encodeByte]
    · simpa using other

theorem fits_plainParts {scheme s p : List Char} {isLast : Bool} {a : Option (List Char)}
    (h : plainParts scheme s isLast = .ok (a, p)) : Fits a p := by
  unfold plainParts at h
  split at h
  · obtain ⟨_, -, h⟩ := Outcome.bind_eq_ok.1 h
    cases h
    rw [Fits]
    split
    · exact ⟨.inl rfl, List.not_mem_nil⟩
    · exact rooted_segmentsText _
  · cases h
    rw [Fits]
    split
    · rfl
    · rename_i single
      simpa using single
  · rename_i single
    cases h
    refine after?_eq_none_of_head? (head?_percentEncode fun first => ?_)
    obtain ⟨rest, rfl⟩ := List.head?_eq_some_iff.1 first
    exact single rest rfl

/-- Host and path of an address go together, and only one without rules of its own has no host. -/
theorem fits_parts {scheme s p : List Char} {isLast : Bool} {a : Option (List Char)}
    (h : parts scheme s isLast = .ok (a, p)) :
    Fits a p ∧ (a = none → isWeb scheme = false ∧ isFile scheme = false) := by
  unfold parts at h
  split at h
  · obtain ⟨⟨_, _⟩, hw, h⟩ := Outcome.map_eq_ok.1 h
    cases h
    exact ⟨rooted_webParts hw, nofun⟩
  · rename_i web
    split at h
    · obtain ⟨⟨_, _⟩, hf, h⟩ := Outcome.map_eq_ok.1 h
      cases h
      exact ⟨rooted_fileParts hf, nofun⟩
    · rename_i file
      exact ⟨fits_plainParts h, fun _ => ⟨by simpa using web, by simpa using file⟩⟩

/-- Without two slashes at its start the rest of an address has no host that could be refused. -/
theorem plainParts_eq_ok (scheme : List Char) {s : List Char} (single : after? ['/', '/'] s = none)
    (isLast : Bool) : ∃ p, plainParts scheme s isLast = .ok (none, p) := by
  unfold plainParts
  split
  · cases single
  · exact ⟨_, rfl⟩
  · exact ⟨_, rfl⟩

end MapLayer.Url
