import MapLayer.Filter.Cql
import MapLayer.Proofs.Query.Cql
import MapLayer.Proofs.Query.Written

/-! Queries and their filter texts. Main statement: every query that can be read has a filter text, so that
only its reading can fail. -/

namespace MapLayer

open MapLayer.Text

namespace Query

inductive IsLeaf : QueryNode → Prop
  | literal (text : String) : IsLeaf (.literal text)
  | wildcard (text : String) : IsLeaf (.wildcard text)

def comparisons : List String := ["lt", "lte", "gt", "gte"]

/-- The expressions whose functions are all known and have the arguments they take, two or more where they
take any number. -/
inductive WellFormed : QueryNode → Prop
  | is (field : String) {value : QueryNode} (leaf : IsLeaf value) :
    WellFormed (.function "is" [.literal field, value])
  | range (field : String) {operator : String} (known : operator ∈ comparisons) {value : QueryNode}
    (leaf : IsLeaf value) : WellFormed (.function "range" [.literal field, .literal operator, value])
  | present (field : String) : WellFormed (.function "exists" [.literal field])
  | not {operand : QueryNode} (h : WellFormed operand) : WellFormed (.function "not" [operand])
  | and {operands : List QueryNode} (many : 2 ≤ operands.length) (h : ∀ n ∈ operands, WellFormed n) :
    WellFormed (.function "and" operands)
  | or {operands : List QueryNode} (many : 2 ≤ operands.length) (h : ∀ n ∈ operands, WellFormed n) :
    WellFormed (.function "or" operands)

theorem name_mem_comparisons (operator : RangeOperator) : operator.name ∈ comparisons := by
  cases operator <;> decide

theorem wellFormed_test (field : String) (t : Term) : WellFormed (t.test field) := by
  cases t with
  | quoted text => exact .is field (.literal text)
  | bare text =>
    unfold Term.test
    split
    · exact .present field
    · refine .is field ?_
      simp only [Term.node]
      split
      · exact .wildcard _
      · exact .literal _

section

variable {α : Type}

theorem inherited_wellFormed (leaf : α → QueryNode) :
    Clause.Inherited fun c => WellFormed (c.node leaf) where
  not _ operand := .not operand
  and cs many operands := by
    have same : Clause.node leaf (.and cs) = .function "and" (cs.map (Clause.node leaf)) := by
      rw [Clause.node, nodes_eq_map]
    rw [same]
    exact .and (by simpa using many) (List.forall_mem_map.2 operands)
  or cs many operands := by
    have same : Clause.node leaf (.or cs) = .function "or" (cs.map (Clause.node leaf)) := by
      rw [Clause.node, nodes_eq_map]
    rw [same]
    exact .or (by simpa using many) (List.forall_mem_map.2 operands)

end

theorem wellFormed_of_valuesReader (field : String) {s : List Char} {c : Taken (Clause Term) s}
    (read : valuesReader s = some c) : WellFormed (c.value.node (Term.test field)) := by
  unfold valuesReader at read
  split at read
  · rename_i found group
    obtain rfl := Option.some.inj read
    exact Clause.holds_readGroup (inherited_wellFormed (Term.test field))
      (fun a _ => wellFormed_test field a.value) group
  · obtain ⟨t, _, rfl⟩ := Option.map_eq_some_iff.1 read
    exact wellFormed_test field t.value

theorem IsTest.wellFormed_node {t : FieldTest} (test : IsTest t) : WellFormed t.node := by
  cases test with
  | range operator value => exact .range _ (name_mem_comparisons operator) (.literal value.text)
  | values _ read => exact wellFormed_of_valuesReader _ read

theorem wellFormed_of_parse {text : String} {node : QueryNode}
    (read : parse text = .ok (some node)) : WellFormed node := by
  obtain ⟨s, c, found, rfl⟩ := exists_clause_of_parse read
  exact Clause.holds_readOr (inherited_wellFormed FieldTest.node)
    (fun _ taken => (isTest_of_fieldReader taken).wellFormed_node) found

theorem cql_of_parse {text : String} {node : QueryNode} (read : parse text = .ok (some node)) :
    ∃ filter, node.cql = .ok filter := by
  obtain ⟨filter, _, translated, -⟩ := QueryNode.hasText_of_isRead (isRead_of_parse read)
  exact ⟨filter, translated⟩

theorem badQuery_of_parse {text : String} {failure : Failure} (read : parse text = .error failure) :
    ∃ reason, failure = .badQuery reason := by
  unfold parse at read
  split at read
  · cases read
  · split at read
    · cases read
    · cases read
      exact ⟨_, rfl⟩

/-- Of a free-text query only the reading can fail. -/
theorem fragment_eq_error_iff {q : SourceQuery} {failure : Failure} :
    q.fragment = .error failure ↔
      q.language = SourceQuery.understood ∧ parse q.text = .error failure := by
  unfold SourceQuery.fragment
  split
  · rename_i understood
    cases read : parse q.text with
    | error reason => simp [bind, Except.bind, understood]
    | ok found =>
      cases found with
      | none => simp [bind, Except.bind, pure, Except.pure]
      | some node =>
        obtain ⟨filter, translated⟩ := cql_of_parse read
        simp [bind, Except.bind, pure, Except.pure, translated]
  · rename_i other
    simp [other]

/-- What a query text is read as is well-formed and has a filter text, so a free-text query can only fail
because its text is no query. -/
theorem parse_translates :
    (∀ (text : String) (node : QueryNode), parse text = .ok (some node) →
      WellFormed node ∧ ∃ filter, node.cql = .ok filter) ∧
    ∀ (q : SourceQuery) (failure : Failure), q.fragment = .error failure →
      parse q.text = .error failure ∧ ∃ reason, failure = .badQuery reason := by
  refine ⟨fun text node read => ⟨wellFormed_of_parse read, cql_of_parse read⟩, ?_⟩
  intro q failure failed
  obtain ⟨-, read⟩ := fragment_eq_error_iff.1 failed
  exact ⟨read, badQuery_of_parse read⟩

/-- A query with a test for absence, and a text that tests nothing. -/
theorem parse_translates_absent :
    let node := QueryNode.function "and" [.function "is" [.literal "a", .literal "x"],
      .function "not" [.function "exists" [.literal "b"]]]
    let words := SourceQuery.ofText "a"
    (parse "a:\"x\" and not b:*" = .ok (some node) ∧
      WellFormed node ∧ ∃ filter, node.cql = .ok filter) ∧
    words.fragment = .error (.badQuery "'a'") ∧
      parse words.text = .error (.badQuery "'a'") ∧ ∃ reason, Failure.badQuery "'a'" = .badQuery reason := by
  intro node words
  have named : IsField "a" ∧ IsField "b" := by decide
  have first := Written.is "x" named.1 (by simp) padding_nil padding_nil
  have second := Written.not (Written.present named.2 (by simp) padding_nil padding_nil)
    (w := "not".toList) (by simp [IsWord]) gap_space
  have row := Written.and first gap_space (w := "and".toList) (by simp [IsWord]) gap_space
    (.conjunct second)
  have read : parse "a:\"x\" and not b:*" = .ok (some node) :=
    parse_of_writes ⟨_, [], _, [], .disjunct row, rfl, padding_nil, padding_nil,
      by simp [quote, escape]⟩
  have unread : Clause.readOr fieldReader (Clause.skip "a".toList) = none :=
    Clause.readOr_eq_none rfl (by decide) rfl
  have failed : words.fragment = .error (.badQuery "'a'") := by
    refine fragment_eq_error_iff.2 ⟨rfl, ?_⟩
    change parse "a" = _
    rw [parse, read?, unread]
    rfl
  exact ⟨⟨read, parse_translates.1 _ _ read⟩, failed, parse_translates.2 _ _ failed⟩

end Query

end MapLayer
