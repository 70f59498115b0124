import MapLayer.Proofs.Query.Scalar
import MapLayer.Proofs.Query.Steady
import MapLayer.Proofs.Query.Translation
import MapLayer.Proofs.Query.Written

/-!
White space around query texts. Main statement: spacing around a text changes nothing of how it is read, and any
other white space makes a query unreadable.
-/

namespace MapLayer.Query

open MapLayer.Text Clause

section

variable {s w w' : List Char} {n : QueryNode}

theorem read?_eq (s : List Char) : read? s = (found (readOr fieldReader) (skip s)).bind fun x =>
    if skip x.2 = [] then some (x.1.node FieldTest.node) else none := by
  rw [read?, found]
  cases readOr fieldReader (skip s) <;> rfl

theorem skip_append_eq_nil_iff : skip (s ++ w) = [] ↔ skip s = [] ∧ Padding w := by
  rw [skip, skip, List.dropWhile_eq_nil_iff, List.dropWhile_eq_nil_iff, List.forall_mem_append, Padding]

/-- A query is read in front of spacing, and not in front of other white space. -/
theorem read?_append_iff (blank : ∀ c ∈ w, isBlank c = true) :
    read? (s ++ w) = some n ↔ read? s = some n ∧ Padding w := by
  have behind : found (readOr fieldReader) (skip (s ++ w)) =
      (found (readOr fieldReader) (skip s)).map (Prod.map id (· ++ w)) := steadyAt_query s w blank
  rw [read?_eq, read?_eq, behind]
  cases found (readOr fieldReader) (skip s) with
  | none => simp
  | some x =>
    have ends : skip (x.2 ++ w) = [] ↔ skip x.2 = [] ∧ Padding w := skip_append_eq_nil_iff
    by_cases empty : skip x.2 = [] <;> by_cases padding : Padding w <;> simp [ends, empty, padding]

theorem readOr_blank {c : Char} (blank : isBlank c = true) (s : List Char) :
    readOr fieldReader (c :: s) = none := by
  refine readOr_eq_none ?_ ?_ (fieldReader_eq_none_of_head (isFieldChar_of_isBlank blank))
  · refine afterKeyword?_eq_none ?_ _ s
    rw [toLower_of_isBlank blank]
    rintro rfl
    contradiction
  · rintro e
    obtain rfl := Option.some.inj e
    contradiction

/-- A query is read behind spacing, and not behind other white space. -/
theorem append_read?_iff (blank : ∀ c ∈ w, isBlank c = true) :
    read? (w ++ s) = some n ↔ Padding w ∧ read? s = some n := by
  induction w with
  | nil => simp [padding_nil]
  | cons c w ih =>
    obtain ⟨here, others⟩ := List.forall_mem_cons.1 blank
    cases spacing : isSpacing c with
    | true =>
      have skipped : skip (c :: (w ++ s)) = skip (w ++ s) := List.dropWhile_cons_of_pos spacing
      have same : read? (c :: w ++ s) = read? (w ++ s) := by
        rw [List.cons_append, read?_eq, skipped, ← read?_eq]
      rw [same, ih others, Padding, Padding, List.forall_mem_cons, and_iff_right spacing]
    | false =>
      have start : skip (c :: (w ++ s)) = c :: (w ++ s) := skip_of_solid ⟨_, _, rfl, spacing⟩
      have unread : read? (c :: w ++ s) = none := by
        rw [List.cons_append, read?_eq, start, found, readOr_blank here]
        rfl
      have other : ¬ Padding (c :: w) := fun padding => by
        rw [padding c List.mem_cons_self] at spacing
        cases spacing
      rw [unread]
      exact iff_of_false (Option.some_ne_none n).symm fun h => other h.1

theorem read?_padded_iff (front : ∀ c ∈ w, isBlank c = true) (back : ∀ c ∈ w', isBlank c = true) :
    read? (w ++ s ++ w') = some n ↔ read? s = some n ∧ Padding w ∧ Padding w' := by
  rw [read?_append_iff back, append_read?_iff front]
  tauto

end

section

variable {text w t w' : String} {n : QueryNode}

theorem read?_nil : read? [] = none := by
  have start : skip [] = [] := rfl
  rw [read?_eq, start, found_nil]
  rfl

theorem parse_eq_none_iff : parse text = .ok none ↔ trim text.toList = [] := by
  unfold parse
  split
  · rename_i blank
    simp [blank]
  · rename_i filled
    cases read? text.toList <;> simp [filled]

theorem parse_eq_some_iff : parse text = .ok (some n) ↔ read? text.toList = some n := by
  unfold parse
  split
  · rename_i empty
    have nothing : read? text.toList ≠ some n := fun read => by
      have inner := (read?_append_iff (s := []) (isBlank_of_trim_eq_nil empty)).1 read
      rw [read?_nil] at inner
      cases inner.1
    simp [nothing]
  · cases read? text.toList <;> simp

theorem badQuery_of_ne (none : parse text ≠ .ok none) (some : ∀ n, parse text ≠ .ok (some n)) :
    ∃ reason, parse text = .error (.badQuery reason) := by
  cases read : parse text with
  | ok found => cases found with
    | none => exact absurd read none
    | some n => exact absurd read (some n)
  | error failure =>
    obtain ⟨reason, rfl⟩ := badQuery_of_parse read
    exact ⟨reason, rfl⟩

theorem toList_padded : (w ++ t ++ w').toList = w.toList ++ t.toList ++ w'.toList := by
  rw [String.toList_append, String.toList_append]

theorem parse_padded_eq_none_iff (front : ∀ c ∈ w.toList, isBlank c = true)
    (back : ∀ c ∈ w'.toList, isBlank c = true) : parse (w ++ t ++ w') = .ok none ↔ parse t = .ok none := by
  rw [parse_eq_none_iff, parse_eq_none_iff, toList_padded, trim_append_blank back, trim_blank_append front]

theorem parse_padded_eq_some_iff (front : ∀ c ∈ w.toList, isBlank c = true)
    (back : ∀ c ∈ w'.toList, isBlank c = true) : parse (w ++ t ++ w') = .ok (some n) ↔
      parse t = .ok (some n) ∧ Padding w.toList ∧ Padding w'.toList := by
  rw [parse_eq_some_iff, parse_eq_some_iff, toList_padded, read?_padded_iff front back]

end

/-- Two texts are taken for the same: for no query, for one query, or for texts that cannot be read. -/
inductive SameReading : Outcome (Option QueryNode) → Outcome (Option QueryNode) → Prop
  | read (found : Option QueryNode) : SameReading (.ok found) (.ok found)
  | unread (reason reason' : String) :
    SameReading (.error (.badQuery reason)) (.error (.badQuery reason'))

theorem sameReading_of_iff {s t : String} (blank : parse s = .ok none ↔ parse t = .ok none)
    (query : ∀ n, parse s = .ok (some n) ↔ parse t = .ok (some n)) :
    SameReading (parse s) (parse t) := by
  cases read : parse t with
  | ok found =>
    have same : parse s = .ok found := by
      cases found with
      | none => exact blank.2 read
      | some n => exact (query n).2 read
    rw [same]
    exact .read found
  | error failure =>
    obtain ⟨reason, rfl⟩ := badQuery_of_parse read
    rw [read] at blank query
    obtain ⟨reason', failed⟩ : ∃ reason, parse s = .error (.badQuery reason) := by
      refine badQuery_of_ne (fun none => ?_) fun n some => ?_
      · cases blank.1 none
      · cases (query n).1 some
    rw [failed]
    exact .unread reason' reason

/-- White space around a text changes nothing of how it is read exactly if it is spacing, or the text is no
query; otherwise the text can no longer be read. -/
theorem parse_padded {w w' : String} (front : ∀ c ∈ w.toList, isBlank c = true)
    (back : ∀ c ∈ w'.toList, isBlank c = true) (t : String) :
    (SameReading (parse (w ++ t ++ w')) (parse t) ↔
      (Padding w.toList ∧ Padding w'.toList) ∨ ∀ n, parse t ≠ .ok (some n)) ∧
    (¬ SameReading (parse (w ++ t ++ w')) (parse t) →
      ∃ reason, parse (w ++ t ++ w') = .error (.badQuery reason)) := by
  have blank := parse_padded_eq_none_iff front back (t := t)
  have padded (n : QueryNode) := parse_padded_eq_some_iff front back (t := t) (n := n)
  by_cases fine : (Padding w.toList ∧ Padding w'.toList) ∨ ∀ n, parse t ≠ .ok (some n)
  · have same : SameReading (parse (w ++ t ++ w')) (parse t) := by
      refine sameReading_of_iff blank fun n => (padded n).trans ?_
      rcases fine with spacing | unreadable
      · exact and_iff_left spacing
      · exact ⟨And.left, fun query => absurd query (unreadable n)⟩
    exact ⟨iff_of_true same fine, fun other => absurd same other⟩
  · obtain ⟨other, readable⟩ := not_or.1 fine
    obtain ⟨n, query⟩ := not_forall_not.1 readable
    obtain ⟨reason, failed⟩ : ∃ reason, parse (w ++ t ++ w') = .error (.badQuery reason) := by
      refine badQuery_of_ne (fun none => ?_) fun m read => other ((padded m).1 read).2
      rw [blank.1 none] at query
      cases query
    refine ⟨iff_of_false ?_ fine, fun _ => ⟨reason, failed⟩⟩
    rw [failed, query]
    nofun

/-- A query with spacing in front of it, and an em space behind it. -/
theorem parse_padded_emSpace :
    let t := "a:\"x\""
    ((∀ c ∈ "\t ".toList, isBlank c = true) ∧ ∀ c ∈ "\u2003".toList, isBlank c = true) ∧
    (SameReading (parse ("\t " ++ t ++ "\u2003")) (parse t) ↔
      (Padding "\t ".toList ∧ Padding "\u2003".toList) ∨ ∀ n, parse t ≠ .ok (some n)) ∧
    (¬ SameReading (parse ("\t " ++ t ++ "\u2003")) (parse t) →
      ∃ reason, parse ("\t " ++ t ++ "\u2003") = .error (.badQuery reason)) := by
  intro t
  have front : ∀ c ∈ "\t ".toList, isBlank c = true := by decide
  have back : ∀ c ∈ "\u2003".toList, isBlank c = true := by decide
  exact ⟨⟨front, back⟩, parse_padded front back t⟩

/-- A no-break space is white space, and is not passed over in front of a query. -/
theorem parse_padded_noBreak :
    ¬ ∀ w t w' : String, (∀ c ∈ w.toList, isBlank c = true) → (∀ c ∈ w'.toList, isBlank c = true) →
      SameReading (parse (w ++ t ++ w')) (parse t) := by
  intro law
  have front : ∀ c ∈ "\u00a0".toList, isBlank c = true := by decide
  have back : ∀ c ∈ "".toList, isBlank c = true := by decide
  have query : parse "a:\"x\"" = .ok (some (.function "is" [.literal "a", .literal "x"])) := by
    have named : IsField "a" := by decide
    have plain : ∀ c ∈ "x".toList, c ≠ '"' ∧ c ≠ '\\' := by decide
    have spelled : "a:\"x\"" = "a" ++ ":\"" ++ "x" ++ "\"" := by decide
    rw [spelled]
    exact parse_quoted named (by decide) plain
  have same := law "\u00a0" "a:\"x\"" "" front back
  rw [query] at same
  generalize read : parse ("\u00a0" ++ "a:\"x\"" ++ "") = found at same
  cases same
  rw [parse_padded_eq_some_iff front back] at read
  exact absurd (read.2.1 '\u00a0' (by decide)) (by decide)

end MapLayer.Query
