import MapLayer.Proofs.Filter.Clauses
import MapLayer.Proofs.Query.Cql
import MapLayer.Proofs.Query.Written
import MapLayer.TimeWindow

/-! The clauses of time windows and queries. Main statements: they are balanced runs, and neither is
taken for a spatial clause. -/

namespace MapLayer

open MapLayer.Cql MapLayer.Text

namespace Instant

theorem unbracketed_padded (width n : Nat) : Unbracketed (padded width n) := by
  intro c hc
  have figure : Decimal.isFigure c = true := by
    rcases List.mem_append.1 hc with hc | hc
    · rw [List.eq_of_mem_replicate hc]
      decide
    · exact Decimal.isFigure_digitsOf hc
  constructor <;> (rintro rfl; revert figure; decide)

theorem unbracketed_yearText (year : Int) : Unbracketed (yearText year) := by
  unfold yearText
  split
  · exact unbracketed_padded 4 _
  · have sign : Unbracketed [if year < 0 then '-' else '+'] := by
      split <;> decide
    exact sign.append (unbracketed_padded 4 _)

theorem unbracketed_iso (t : Instant) : Unbracketed t.iso.toList := by
  have mark (c : Char) (other : c ≠ '(' ∧ c ≠ ')') : Unbracketed [c] := by
    intro d hd
    rwa [List.mem_singleton.1 hd]
  have part (c : Char) (other : c ≠ '(' ∧ c ≠ ')') (width n : Nat) :
      Unbracketed (c :: padded width n) := (mark c other).append (unbracketed_padded width n)
  rw [iso, String.toList_ofList]
  exact (((((((unbracketed_yearText _).append (part '-' (by decide) 2 _)).append
    (part '-' (by decide) 2 _)).append (part 'T' (by decide) 2 _)).append
    (part ':' (by decide) 2 _)).append (part ':' (by decide) 2 _)).append
    (part '.' (by decide) 3 _)).append (mark 'Z' (by decide))

end Instant

/-- A clause that limits a column to the time between two instants. -/
def IsTimeClause (column : String) (f : CqlFragment) : Prop :=
  ∃ start stop : Instant, f = .plain s!"({column} BETWEEN {start.iso} AND {stop.iso})"

def windowFragment (column : String) (slice : Option Timeslice) (range : Option TimeRange)
    (now : Instant) : Option CqlFragment :=
  timeFragment column (timeWindow slice range now).1 (timeWindow slice range now).2

section

variable {column : String} {slice : Option Timeslice} {range : Option TimeRange} {now : Instant}
  {f : CqlFragment}

theorem isTimeClause_of_window (h : windowFragment column slice range now = some f) :
    column ≠ "" ∧ IsTimeClause column f := by
  unfold windowFragment timeFragment at h
  split at h
  · cases h
  · rename_i named
    refine ⟨named, ?_⟩
    split at h
    · rename_i start stop hs ht
      obtain rfl := Option.some.inj h
      cases slice with
      | some s =>
        obtain ⟨a, -, rfl⟩ := Option.map_eq_some_iff.1 hs
        obtain ⟨b, -, rfl⟩ := Option.map_eq_some_iff.1 ht
        exact ⟨a, b, rfl⟩
      | none =>
        obtain ⟨a, -, rfl⟩ := Option.map_eq_some_iff.1 hs
        obtain rfl := Option.some.inj ht
        exact ⟨a, _, rfl⟩
    · cases h

namespace IsTimeClause

theorem body (time : IsTimeClause column f) (plain : Unbracketed column.toList) :
    ∃ s, Unbracketed s ∧ f.cql.toList = '(' :: (s ++ [')']) := by
  obtain ⟨start, stop, rfl⟩ := time
  refine ⟨column.toList ++ " BETWEEN ".toList
    ++ (start.iso.toList ++ " AND ".toList ++ stop.iso.toList), ?_, ?_⟩
  · have between : Unbracketed " BETWEEN ".toList := by decide
    have mark : Unbracketed " AND ".toList := by decide
    exact (plain.append between).append
      ((start.unbracketed_iso.append mark).append stop.unbracketed_iso)
  · simp [CqlFragment.plain, toString]

theorem enclosed (time : IsTimeClause column f) (plain : Unbracketed column.toList) :
    Enclosed f.cql.toList := by
  obtain ⟨s, inside, chars⟩ := time.body plain
  exact ⟨s, inside.balanced, chars⟩

theorem isSpatial (time : IsTimeClause column f) (plain : Unbracketed column.toList) :
    (classify f.cql.toList).isSpatial = false := by
  obtain ⟨s, inside, chars⟩ := time.body plain
  rw [chars]
  exact isSpatial_unopened fun member => (inside _ member).1 rfl

theorem isTimeRange (time : IsTimeClause column f) (plain : Unbracketed column.toList) :
    (classify f.cql.toList).isTimeRange = true := by
  rw [CqlFragment.isTimeRange, time.isSpatial plain, classify_cql, String.toList_ofList]
  obtain ⟨start, stop, rfl⟩ := time
  have whole := occursIn_append " BETWEEN ".toList ('(' :: column.toList)
    (start.iso.toList ++ " AND ".toList ++ stop.iso.toList ++ [')'])
  simpa [CqlFragment.plain, toString] using whole

end IsTimeClause

end

namespace SourceQuery

/-- No literal value that a query tests for holds a parenthesis. -/
def HasPlainValues (q : SourceQuery) : Prop :=
  ∀ node, Query.parse q.text = .ok (some node) →
    ∀ v, QueryNode.literal v ∈ node.values → Unbracketed v.toList

/-- In each literal value that a query tests for the parentheses are balanced. -/
def HasBalancedValues (q : SourceQuery) : Prop :=
  ∀ node, Query.parse q.text = .ok (some node) →
    ∀ v, QueryNode.literal v ∈ node.values → Balanced v.toList

theorem HasPlainValues.balanced {q : SourceQuery} (plain : q.HasPlainValues) :
    q.HasBalancedValues :=
  fun node parsed v hv => (plain node parsed v hv).balanced

theorem fragment_eq_ok {q : SourceQuery} {f : CqlFragment} (h : q.fragment = .ok (some f)) :
    ∃ node text, q.language = understood ∧ Query.parse q.text = .ok (some node) ∧
      node.cql = .ok text ∧ f = .plain ("(" ++ text ++ ")") := by
  unfold fragment at h
  split at h
  · rename_i known
    obtain ⟨read, parsed, h⟩ := Outcome.bind_eq_ok.1 h
    cases read with
    | none => cases h
    | some node =>
      obtain ⟨text, written, h⟩ := Outcome.bind_eq_ok.1 h
      cases h
      exact ⟨node, text, known, parsed, written, rfl⟩
  · cases h

variable {q : SourceQuery} {f : CqlFragment}

theorem fragment_body (h : q.fragment = .ok (some f)) (closed : q.HasBalancedValues) :
    ∃ s, QueryNode.Shaped s ∧ f.cql.toList = '(' :: (s ++ [')']) := by
  obtain ⟨node, text, -, parsed, written, rfl⟩ := fragment_eq_ok h
  obtain ⟨_, _, same, -, shape⟩ := QueryNode.hasText_of_isRead (Query.isRead_of_parse parsed)
  rw [written] at same
  obtain rfl := Except.ok.inj same
  exact ⟨text.toList, shape.shaped (closed node parsed), by simp [CqlFragment.plain]⟩

theorem fragment_enclosed (h : q.fragment = .ok (some f)) (closed : q.HasBalancedValues) :
    Enclosed f.cql.toList := by
  obtain ⟨s, shaped, chars⟩ := fragment_body h closed
  exact ⟨s, shaped.balanced, chars⟩

theorem fragment_isSpatial (h : q.fragment = .ok (some f)) (closed : q.HasBalancedValues) :
    (classify f.cql.toList).isSpatial = false := by
  obtain ⟨s, shaped, chars⟩ := fragment_body h closed
  rw [chars]
  exact shaped.isSpatial

section

variable {field value : String} (named : Query.IsField field) (nonempty : field ≠ "")
  (quotable : ∀ c ∈ value.toList, c ≠ '"' ∧ c ≠ '\\')

include named nonempty quotable

theorem fragment_quoted : (ofText (field ++ ":\"" ++ value ++ "\"")).fragment
    = .ok (some (.plain ("(" ++ (field ++ "=" ++ ("'" ++ value ++ "'")) ++ ")"))) := by
  have parsed := Query.parse_quoted named nonempty quotable
  have known : (ofText (field ++ ":\"" ++ value ++ "\"")).language = understood := rfl
  rw [fragment, if_pos known]
  exact Outcome.bind_eq_ok.2 ⟨_, parsed, rfl⟩

theorem hasPlainValues_quoted (plain : Unbracketed value.toList) :
    (ofText (field ++ ":\"" ++ value ++ "\"")).HasPlainValues := by
  intro node read v hv
  rw [text, ofText, Query.parse_quoted named nonempty quotable] at read
  cases read
  cases hv with
  | head => exact plain
  | tail _ none => cases none

end

end SourceQuery

end MapLayer
