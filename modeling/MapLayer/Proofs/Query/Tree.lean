import MapLayer.Proofs.Cql.Runs
import MapLayer.Proofs.Query.Clause
import MapLayer.Proofs.Text.Replace
import MapLayer.Query.Parser

/-! The expressions that texts are read as. Main statement: they are combinations of tests of fields,
each with as many arguments as it takes. -/

namespace MapLayer

open MapLayer.Cql MapLayer.Text

namespace Text

theorem replace_unbracketed {mark new s : List Char} (hn : Unbracketed new) (hs : Unbracketed s) :
    Unbracketed (replace mark new s) := by
  intro c hc
  rcases mem_replace hc with hc | hc
  · exact hs c hc
  · exact hn c hc

end Text

namespace Query

def IsField (field : String) : Prop := ∀ c ∈ field.toList, isFieldChar c = true

instance (field : String) : Decidable (IsField field) :=
  inferInstanceAs (Decidable (∀ c ∈ field.toList, isFieldChar c = true))

/-- The values that a field is tested for. -/
inductive IsValue : QueryNode → Prop
  | literal (text : String) : IsValue (.literal text)
  | wildcard {text : String} (bare : Unbracketed text.toList) : IsValue (.wildcard text)

/-- The expressions that texts are read as. -/
inductive IsRead : QueryNode → Prop
  | present {field : String} (named : IsField field) : IsRead (.function "exists" [.literal field])
  | is {field : String} {value : QueryNode} (named : IsField field) (tested : IsValue value) :
    IsRead (.function "is" [.literal field, value])
  | range {field : String} (operator : RangeOperator) (text : String) (named : IsField field) :
    IsRead (.function "range" [.literal field, .literal operator.name, .literal text])
  | not {operand : QueryNode} (read : IsRead operand) : IsRead (.function "not" [operand])
  | and {operands : List QueryNode} (read : ∀ n ∈ operands, IsRead n) :
    IsRead (.function "and" operands)
  | or {operands : List QueryNode} (read : ∀ n ∈ operands, IsRead n) :
    IsRead (.function "or" operands)

theorem all_of_spanReader {p : Char → Bool} {s : List Char} {t : Taken String s}
    (read : spanReader p s = some t) : ∀ c ∈ t.value.toList, p c = true := by
  cases s with
  | nil => contradiction
  | cons d s =>
    rw [spanReader] at read
    split at read
    · rename_i first
      obtain rfl := Option.some.inj read
      intro c hc
      rw [String.toList_ofList] at hc
      rcases List.mem_cons.1 hc with rfl | hc
      · exact first
      · exact List.all_eq_true.1 List.all_takeWhile c hc
    · contradiction

/-- A value without quotes holds no parenthesis. -/
inductive IsTerm : Term → Prop
  | quoted (text : String) : IsTerm (.quoted text)
  | bare {text : String} (plain : Unbracketed text.toList) : IsTerm (.bare text)

theorem isTerm_of_termReader {s : List Char} {t : Taken Term s} (read : termReader s = some t) :
    IsTerm t.value := by
  unfold termReader at read
  split at read
  · rename_i found quoted
    obtain rfl := Option.some.inj read
    unfold quotedReader at quoted
    split at quoted
    · split at quoted
      · contradiction
      · obtain rfl := Option.some.inj quoted
        exact .quoted _
    · contradiction
  · obtain ⟨word, spanned, rfl⟩ := Option.map_eq_some_iff.1 read
    refine .bare fun c hc => ?_
    have bare := all_of_spanReader spanned c hc
    constructor <;> (rintro rfl; contradiction)

theorem IsTerm.isRead_test {t : Term} (term : IsTerm t) {field : String} (named : IsField field) :
    IsRead (t.test field) := by
  cases term with
  | quoted text => exact .is named (.literal text)
  | bare plain =>
    unfold Term.test
    split
    · exact .present named
    · refine .is named ?_
      simp only [Term.node]
      split
      · refine .wildcard ?_
        rw [String.toList_ofList]
        exact replace_unbracketed (by decide) plain
      · exact .literal _

section

variable {α : Type} {leaf : α → QueryNode} {c : Clause α}

theorem nodes_eq_map (leaf : α → QueryNode) (cs : List (Clause α)) :
    Clause.nodes leaf cs = cs.map (Clause.node leaf) := by
  induction cs with
  | nil => rfl
  | cons c cs ih => rw [Clause.nodes, ih, List.map_cons]

theorem isRead_node (each : c.Each fun a => IsRead (leaf a)) : IsRead (c.node leaf) := by
  have all {cs : List (Clause α)} (ih : ∀ c ∈ cs, IsRead (c.node leaf)) :
      ∀ n ∈ Clause.nodes leaf cs, IsRead n := by
    rw [nodes_eq_map]
    exact List.forall_mem_map.2 ih
  induction each with
  | atom holds => exact holds
  | not _ ih => exact .not ih
  | and _ ih => exact .and (all ih)
  | or _ ih => exact .or (all ih)

end

theorem each_of_valuesReader {s : List Char} {c : Taken (Clause Term) s}
    (read : valuesReader s = some c) : c.value.Each IsTerm := by
  unfold valuesReader at read
  split at read
  · rename_i found group
    obtain rfl := Option.some.inj read
    exact Clause.each_readGroup (fun _ => isTerm_of_termReader) group
  · obtain ⟨t, term, rfl⟩ := Option.map_eq_some_iff.1 read
    exact .atom (isTerm_of_termReader term)

inductive IsTest : FieldTest → Prop
  | range {field : String} (operator : RangeOperator) (value : Term) (named : IsField field) :
    IsTest (.range field operator value)
  | values {field : String} (named : IsField field) {s : List Char} {c : Taken (Clause Term) s}
    (read : valuesReader s = some c) : IsTest (.values field c.value)

theorem isTest_of_rangeReader {field : String} (named : IsField field) {s : List Char}
    {t : Taken FieldTest s} (read : rangeReader field s = some t) : IsTest t.value := by
  unfold rangeReader at read
  split at read
  · contradiction
  · obtain ⟨_, _, rfl⟩ := Option.map_eq_some_iff.1 read
    exact .range _ _ named

theorem isTest_of_matchReader {field : String} (named : IsField field) {s : List Char}
    {t : Taken FieldTest s} (read : matchReader field s = some t) : IsTest t.value := by
  unfold matchReader at read
  split at read
  · obtain ⟨c, values, rfl⟩ := Option.map_eq_some_iff.1 read
    exact .values named values
  · contradiction

theorem isTest_of_fieldReader {s : List Char} {t : Taken FieldTest s}
    (read : fieldReader s = some t) : IsTest t.value := by
  unfold fieldReader at read
  split at read
  · contradiction
  · rename_i field spanned
    have named : IsField field.value := all_of_spanReader spanned
    split at read
    · rename_i test ranged
      obtain rfl := Option.some.inj read
      have held : IsTest test.value := isTest_of_rangeReader named ranged
      exact held
    · obtain ⟨test, matched, rfl⟩ := Option.map_eq_some_iff.1 read
      have held : IsTest test.value := isTest_of_matchReader named matched
      exact held

theorem IsTest.isRead_node {t : FieldTest} (test : IsTest t) : IsRead t.node := by
  cases test with
  | range operator value named => exact .range operator value.text named
  | values named read =>
    have each := each_of_valuesReader read
    exact Query.isRead_node (each.mono fun _ term => term.isRead_test named)

theorem exists_clause_of_parse {text : String} {node : QueryNode}
    (read : parse text = .ok (some node)) : ∃ (s : List Char) (c : Taken (Clause FieldTest) s),
      Clause.readOr fieldReader s = some c ∧ c.value.node FieldTest.node = node := by
  unfold parse at read
  split at read
  · cases read
  · split at read
    · rename_i found
      cases read
      unfold read? at found
      split at found
      · rename_i c combined
        split at found
        · exact ⟨_, c, combined, Option.some.inj found⟩
        · contradiction
      · contradiction
    · cases read

theorem isRead_of_parse {text : String} {node : QueryNode} (read : parse text = .ok (some node)) :
    IsRead node := by
  obtain ⟨s, c, found, rfl⟩ := exists_clause_of_parse read
  have each := Clause.each_readOr (P := IsTest) (fun _ => isTest_of_fieldReader) found
  exact isRead_node (each.mono fun _ test => test.isRead_node)

end Query

end MapLayer
