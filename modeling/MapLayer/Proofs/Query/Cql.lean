import MapLayer.Proofs.Cql.Classify
import MapLayer.Proofs.Query.Tree
import MapLayer.Query.Cql

/-! The filter texts of expressions that were read. Main statements: there always is one, and its clause
is a balanced run that is not taken for a spatial one if no value holds a parenthesis. -/

namespace MapLayer.QueryNode

open MapLayer.Cql MapLayer.Query MapLayer.Text

mutual

/-- The values that fields are compared with, from left to right. -/
def values : QueryNode → List QueryNode
  | function "is" [_, value] => [value]
  | function "range" [_, _, value] => [value]
  | function _ operands => valuesEach operands
  | literal _ | wildcard _ => []

def valuesEach : List QueryNode → List QueryNode
  | [] => []
  | node :: nodes => values node ++ valuesEach nodes

end

def content : QueryNode → List Char
  | literal text => text.toList
  | wildcard text => Text.replace anyMark.toList ['%'] text.toList
  | function .. => []

def emptied : QueryNode → QueryNode
  | literal _ => literal ""
  | wildcard _ => wildcard ""
  | node => node

mutual

/-- The expression with nothing in its values. -/
def blank : QueryNode → QueryNode
  | function "is" [field, value] => function "is" [field, value.emptied]
  | function "range" [field, operator, value] => function "range" [field, operator, value.emptied]
  | function name operands => function name (blankEach operands)
  | node => node

def blankEach : List QueryNode → List QueryNode
  | [] => []
  | node :: nodes => blank node :: blankEach nodes

end

def IsPlain (s : List Char) : Prop := ∀ c ∈ s, c ≠ '(' ∧ c ≠ ')' ∧ c ≠ '\''

instance (s : List Char) : Decidable (IsPlain s) :=
  inferInstanceAs (Decidable (∀ c ∈ s, c ≠ '(' ∧ c ≠ ')' ∧ c ≠ '\''))

theorem IsPlain.append {s t : List Char} (hs : IsPlain s) (ht : IsPlain t) : IsPlain (s ++ t) := by
  intro c hc
  rcases List.mem_append.1 hc with hc | hc
  · exact hs c hc
  · exact ht c hc

theorem IsPlain.unbracketed {s : List Char} (plain : IsPlain s) : Unbracketed s :=
  fun c hc => ⟨(plain c hc).1, (plain c hc).2.1⟩

theorem isPlain_of_isField {field : String} (named : IsField field) : IsPlain field.toList := by
  intro c hc
  have char := named c hc
  refine ⟨?_, ?_, ?_⟩ <;> (rintro rfl; revert char; decide)

def junctions : List (String × String) := [("and", " AND "), ("or", " OR ")]

theorem values_not (node : QueryNode) : (function "not" [node]).values = node.values :=
  List.append_nil _

theorem valuesEach_eq_flatMap (nodes : List QueryNode) : valuesEach nodes = nodes.flatMap values := by
  induction nodes with
  | nil => rfl
  | cons node nodes ih => rw [valuesEach, ih, List.flatMap_cons]

theorem values_joined {name mark : String} (listed : (name, mark) ∈ junctions)
    (nodes : List QueryNode) : (function name nodes).values = nodes.flatMap values := by
  have each : (function name nodes).values = valuesEach nodes := by
    simp only [junctions, List.mem_cons, Prod.mk.injEq, List.not_mem_nil, or_false] at listed
    rcases listed with ⟨rfl, rfl⟩ | ⟨rfl, rfl⟩ <;> rfl
  rw [each, valuesEach_eq_flatMap]

/-- How the filter text of an expression is put together, and beside it the text of the same expression
with nothing in its values. -/
inductive Written : QueryNode → (text outline : List Char) → Prop
  | named {node : QueryNode} {s : List Char} (none : node.values = []) (plain : IsPlain s) :
    Written node s s
  | compared {node value : QueryNode} {front : List Char} (one : node.values = [value])
    (tested : IsValue value) (plain : IsPlain front) :
    Written node (front ++ '\'' :: (value.content ++ ['\''])) (front ++ ['\'', '\''])
  | negated {node : QueryNode} {s o : List Char} (operand : Written node s o) :
    Written (function "not" [node]) (clauseBody true [] s) (clauseBody true [] o)
  | joined {name mark : String} (listed : (name, mark) ∈ junctions)
    (operands : List (QueryNode × List Char × List Char))
    (each : ∀ p ∈ operands, Written p.1 p.2.1 p.2.2) :
    Written (function name (operands.map (·.1)))
      (clauseBody false [] (mark.toList.intercalate (operands.map (·.2.1))))
      (clauseBody false [] (mark.toList.intercalate (operands.map (·.2.2))))

/-- There is a filter text of the expression and one of the same with nothing in its values, put together
alike. -/
def HasText (node : QueryNode) : Prop :=
  ∃ text outline : String, node.cql = .ok text ∧ node.blank.cql = .ok outline ∧
    Written node text.toList outline.toList

theorem written_compared {field : String} (named : IsField field) {sign : List Char}
    (plain : IsPlain sign) {node value : QueryNode} (one : node.values = [value])
    (tested : IsValue value) {text outline : String}
    (ht : text.toList = field.toList ++ sign ++ '\'' :: (value.content ++ ['\'']))
    (ho : outline.toList = field.toList ++ sign ++ ['\'', '\'']) :
    Written node text.toList outline.toList := by
  rw [ht, ho]
  exact .compared one tested ((isPlain_of_isField named).append plain)

theorem hasText_exists {field : String} (named : IsField field) :
    HasText (function "exists" [literal field]) := by
  refine ⟨field ++ " IS NOT NULL", field ++ " IS NOT NULL", rfl, rfl, ?_⟩
  rw [String.toList_append]
  exact .named rfl ((isPlain_of_isField named).append (by decide))

theorem hasText_is {field : String} {value : QueryNode} (named : IsField field) (tested : IsValue value) :
    HasText (function "is" [literal field, value]) := by
  cases tested with
  | literal text =>
    refine ⟨field ++ "=" ++ ("'" ++ text ++ "'"), field ++ "=" ++ ("'" ++ "" ++ "'"), rfl, rfl, ?_⟩
    have equals : IsPlain ['='] := by decide
    exact written_compared named equals rfl (.literal text) (by simp [content]) (by simp)
  | @wildcard text bare =>
    refine ⟨field ++ "" ++ like text, field ++ "" ++ like "", rfl, rfl, ?_⟩
    have likes : IsPlain " LIKE ".toList := by decide
    exact written_compared named likes rfl (.wildcard bare) (by simp [content, like])
      (by simp [like, replace_nil])

def sign : RangeOperator → String
  | .less => "<"
  | .lessOrEqual => "<="
  | .greater => ">"
  | .greaterOrEqual => ">="

theorem rangeSign_name (operator : RangeOperator) :
    rangeSign (literal operator.name) = .ok (sign operator) := by
  cases operator <;> rfl

theorem hasText_range {field : String} (operator : RangeOperator) (text : String)
    (named : IsField field) :
    HasText (function "range" [literal field, literal operator.name, literal text]) := by
  refine ⟨field ++ " " ++ sign operator ++ " " ++ ("'" ++ text ++ "'"),
    field ++ " " ++ sign operator ++ " " ++ ("'" ++ "" ++ "'"), ?_, ?_, ?_⟩
  · rw [cql, rangeSign_name]
    rfl
  · change cql (function "range" [_, _, _]) = _
    rw [cql, rangeSign_name]
    rfl
  · have plain : IsPlain (' ' :: ((sign operator).toList ++ [' '])) := by
      cases operator <;> decide
    exact written_compared named plain rfl (.literal text) (by simp [content]) (by simp)

theorem hasText_not {operand : QueryNode} (h : HasText operand) : HasText (function "not" [operand]) := by
  obtain ⟨text, outline, ht, ho, written⟩ := h
  refine ⟨"NOT (" ++ text ++ ")", "NOT (" ++ outline ++ ")", ?_, ?_, ?_⟩
  · rw [cql, ht]
    rfl
  · change cql (function "not" [_]) = _
    rw [cql, ho]
    rfl
  · simpa [clauseBody] using Written.negated written

theorem cqlEach_of_each {nodes : List QueryNode} (each : ∀ n ∈ nodes, HasText n) :
    ∃ written : List (QueryNode × String × String), written.map (·.1) = nodes ∧
      cqlEach nodes = .ok (written.map (·.2.1)) ∧
      cqlEach (blankEach nodes) = .ok (written.map (·.2.2)) ∧
      ∀ w ∈ written, Written w.1 w.2.1.toList w.2.2.toList := by
  induction nodes with
  | nil => exact ⟨[], rfl, rfl, rfl, nofun⟩
  | cons n nodes ih =>
    obtain ⟨text, outline, ht, ho, first⟩ := each n List.mem_cons_self
    obtain ⟨written, hn, hts, hos, rest⟩ := ih fun m hm => each m (List.mem_cons_of_mem _ hm)
    refine ⟨(n, text, outline) :: written, by simp [hn], ?_, ?_,
      List.forall_mem_cons.2 ⟨first, rest⟩⟩
    · simp [cqlEach, ht, hts]
      rfl
    · simp [blankEach, cqlEach, ho, hos]
      rfl

theorem cql_joined {name mark : String} (listed : (name, mark) ∈ junctions) (nodes : List QueryNode) :
    (function name nodes).cql = junction mark <$> cqlEach nodes ∧
      (function name nodes).blank.cql = junction mark <$> cqlEach (blankEach nodes) := by
  simp only [junctions, List.mem_cons, Prod.mk.injEq, List.not_mem_nil, or_false] at listed
  rcases listed with ⟨rfl, rfl⟩ | ⟨rfl, rfl⟩ <;> simp [blank, cql]

theorem hasText_joined {name mark : String} (listed : (name, mark) ∈ junctions)
    {nodes : List QueryNode} (each : ∀ n ∈ nodes, HasText n) : HasText (function name nodes) := by
  obtain ⟨written, rfl, ht, ho, all⟩ := cqlEach_of_each each
  obtain ⟨text, outline⟩ := cql_joined listed (written.map (·.1))
  refine ⟨_, _, by rw [text, ht]; rfl, by rw [outline, ho]; rfl, ?_⟩
  have whole := Written.joined listed (written.map fun w => (w.1, w.2.1.toList, w.2.2.toList))
    (List.forall_mem_map.2 all)
  simpa [junction, clauseBody, Function.comp_def] using whole

theorem hasText_of_isRead {node : QueryNode} (read : IsRead node) : HasText node := by
  induction read with
  | present named => exact hasText_exists named
  | is named tested => exact hasText_is named tested
  | range operator text named => exact hasText_range operator text named
  | not _ ih => exact hasText_not ih
  | and _ ih =>
    have listed : ("and", " AND ") ∈ junctions := by decide
    exact hasText_joined listed ih
  | or _ ih =>
    have listed : ("or", " OR ") ∈ junctions := by decide
    exact hasText_joined listed ih

/-- What a clause holds that is no spatial one: a text without parentheses, one with a quote before the
first of them, or one in parentheses, perhaps negated. -/
inductive Shaped : List Char → Prop
  | unopened {s : List Char} (plain : Unbracketed s) : Shaped s
  | quoted {front rest : List Char} (unopened : '(' ∉ front)
    (balanced : Balanced (front ++ '\'' :: rest)) : Shaped (front ++ '\'' :: rest)
  | grouped (negate : Bool) {arguments : List Char} (balanced : Balanced arguments) :
    Shaped (clauseBody negate [] arguments)

theorem Shaped.balanced {s : List Char} (shaped : Shaped s) : Balanced s := by
  cases shaped with
  | unopened plain => exact plain.balanced
  | quoted _ balanced => exact balanced
  | grouped negate balanced =>
    have word : Unbracketed (if negate then ['N', 'O', 'T', ' '] else []) := by
      cases negate <;> decide
    simpa [clauseBody] using word.balanced.append balanced.enclosed

theorem Shaped.isSpatial {s : List Char} (shaped : Shaped s) :
    (classify ('(' :: (s ++ [')']))).isSpatial = false := by
  cases shaped with
  | unopened plain => exact isSpatial_unopened fun member => (plain _ member).1 rfl
  | quoted unopened => exact isSpatial_quoted unopened _
  | @grouped negate arguments =>
    have word : Solid [] := by decide
    exact isSpatial_clauseText negate (by simp) word (by decide) arguments

theorem Written.shaped {node : QueryNode} {s o : List Char} (written : Written node s o)
    (closed : ∀ v, literal v ∈ node.values → Balanced v.toList) : Shaped s := by
  induction written with
  | named _ clear => exact .unopened clear.unbracketed
  | @compared node value front one tested clear =>
    have inside : Balanced value.content := by
      cases tested with
      | literal text => exact closed text (by simp [one])
      | wildcard bare => exact (replace_unbracketed (by decide) bare).balanced
    have mark : Balanced ['\''] := rfl
    exact .quoted (fun member => (clear.unbracketed _ member).1 rfl)
      (clear.unbracketed.balanced.append (mark.append (inside.append mark)))
  | negated _ ih =>
    rw [values_not] at closed
    exact .grouped true (ih closed).balanced
  | @joined name mark listed operands _ ih =>
    refine .grouped false ?_
    have word : Balanced mark.toList := by
      simp only [junctions, List.mem_cons, Prod.mk.injEq, List.not_mem_nil, or_false] at listed
      rcases listed with ⟨-, rfl⟩ | ⟨-, rfl⟩ <;> decide
    refine word.intercalate (List.forall_mem_map.2 fun p hp => (ih p hp ?_).balanced)
    intro v hv
    refine closed v ?_
    rw [values_joined listed]
    exact List.mem_flatMap.2 ⟨p.1, List.mem_map_of_mem hp, hv⟩

end MapLayer.QueryNode
