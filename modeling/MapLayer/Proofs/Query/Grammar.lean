import MapLayer.Proofs.Query.Tree

/-!
How query expressions are written: values in quotes, keywords in any letter case, parentheses where they
are needed or anywhere more. Main statement: every expression can be written.
-/

namespace MapLayer.Query

open MapLayer.Text

/-- Tests of fields, combined by `not`, and by `and` and `or` of at least two. -/
inductive Expression : QueryNode → Prop
  | is {field : String} (text : String) (named : IsField field) (nonempty : field ≠ "") :
    Expression (.function "is" [.literal field, .literal text])
  | range {field : String} (operator : RangeOperator) (text : String) (named : IsField field)
    (nonempty : field ≠ "") :
    Expression (.function "range" [.literal field, .literal operator.name, .literal text])
  | present {field : String} (named : IsField field) (nonempty : field ≠ "") :
    Expression (.function "exists" [.literal field])
  | not {n : QueryNode} (h : Expression n) : Expression (.function "not" [n])
  | and {ns : List QueryNode} (many : 2 ≤ ns.length) (h : ∀ n ∈ ns, Expression n) :
    Expression (.function "and" ns)
  | or {ns : List QueryNode} (many : 2 ≤ ns.length) (h : ∀ n ∈ ns, Expression n) :
    Expression (.function "or" ns)

/-- What may stand between the parts of a text. -/
def Padding (b : List Char) : Prop := ∀ c ∈ b, isSpacing c = true

/-- What has to stand beside a keyword. -/
def Gap (b : List Char) : Prop := Padding b ∧ b ≠ []

/-- A keyword in any letter case. -/
def IsWord (word w : List Char) : Prop := w.map Char.toLower = word

instance (word w : List Char) : Decidable (IsWord word w) :=
  inferInstanceAs (Decidable (w.map Char.toLower = word))

def escape (s : List Char) : List Char :=
  s.flatMap fun c => if c = '\\' ∨ c = '"' then ['\\', c] else [c]

def quote (text : String) : List Char := '"' :: (escape text.toList ++ ['"'])

def RangeOperator.sign : RangeOperator → List Char
  | less => ['<']
  | lessOrEqual => ['<', '=']
  | greater => ['>']
  | greaterOrEqual => ['>', '=']

/-- One operand stands for itself, more are combined. -/
def gathered (name : String) : List QueryNode → QueryNode
  | [n] => n
  | ns => .function name ns

/-- The parts of a text: an operand, and operands with `and` or with `or` between them. -/
inductive Part
  | operand (n : QueryNode)
  | ands (ns : List QueryNode)
  | ors (ns : List QueryNode)

/-- How a part is written. An operand of `or` is a row of operands of `and`, and one of `and` or `not`
is a test, a negation or a group. -/
inductive Written : Part → List Char → Prop
  | is {field : String} (text : String) (named : IsField field) (nonempty : field ≠ "")
    {b b' : List Char} (before : Padding b) (after : Padding b') :
    Written (.operand (.function "is" [.literal field, .literal text]))
      (field.toList ++ b ++ [':'] ++ b' ++ quote text)
  | range {field : String} (operator : RangeOperator) (text : String) (named : IsField field)
    (nonempty : field ≠ "") {b b' : List Char} (before : Padding b) (after : Padding b') :
    Written (.operand (.function "range" [.literal field, .literal operator.name, .literal text]))
      (field.toList ++ b ++ operator.sign ++ b' ++ quote text)
  | present {field : String} (named : IsField field) (nonempty : field ≠ "")
    {b b' : List Char} (before : Padding b) (after : Padding b') :
    Written (.operand (.function "exists" [.literal field]))
      (field.toList ++ b ++ [':'] ++ b' ++ ['*'])
  | not {n : QueryNode} {s w b : List Char} (h : Written (.operand n) s)
    (word : IsWord ['n', 'o', 't'] w) (after : Gap b) :
    Written (.operand (.function "not" [n])) (w ++ b ++ s)
  | group {ns : List QueryNode} {s b b' : List Char} (h : Written (.ors ns) s)
    (before : Padding b) (after : Padding b') :
    Written (.operand (gathered "or" ns)) (['('] ++ b ++ s ++ b' ++ [')'])
  | conjunct {n : QueryNode} {s : List Char} (h : Written (.operand n) s) : Written (.ands [n]) s
  | and {n : QueryNode} {ns : List QueryNode} {s t w b b' : List Char}
    (h : Written (.operand n) s) (before : Gap b) (word : IsWord ['a', 'n', 'd'] w) (after : Gap b')
    (others : Written (.ands ns) t) : Written (.ands (n :: ns)) (s ++ b ++ w ++ b' ++ t)
  | disjunct {ns : List QueryNode} {s : List Char} (h : Written (.ands ns) s) :
    Written (.ors [gathered "and" ns]) s
  | or {ns ms : List QueryNode} {s t w b b' : List Char}
    (h : Written (.ands ns) s) (before : Gap b) (word : IsWord ['o', 'r'] w) (after : Gap b')
    (others : Written (.ors ms) t) : Written (.ors (gathered "and" ns :: ms)) (s ++ b ++ w ++ b' ++ t)

def Writes (n : QueryNode) (text : String) : Prop :=
  ∃ ns b s b', Written (.ors ns) s ∧ gathered "or" ns = n ∧ Padding b ∧ Padding b' ∧
    text.toList = b ++ s ++ b'

theorem padding_nil : Padding [] := by simp [Padding]

theorem gap_space : Gap [' '] := by simp [Gap, Padding, isSpacing]

theorem gathered_of_many {name : String} {ns : List QueryNode} (many : 2 ≤ ns.length) :
    gathered name ns = .function name ns := by
  cases ns with
  | nil => simp at many
  | cons n ns => cases ns with
    | nil => simp at many
    | cons m ns => rfl

theorem exists_row {ns : List QueryNode} (operand : QueryNode → List Char → Prop)
    (row : List QueryNode → List Char → Prop) (single : ∀ n s, operand n s → row [n] s)
    (longer : ∀ n ms s t, operand n s → row ms t → ∃ u, row (n :: ms) u) (nonempty : ns ≠ [])
    (h : ∀ n ∈ ns, ∃ s, operand n s) : ∃ s, row ns s := by
  induction ns with
  | nil => contradiction
  | cons n ns ih =>
    obtain ⟨⟨s, first⟩, others⟩ := List.forall_mem_cons.1 h
    cases ns with
    | nil => exact ⟨s, single n s first⟩
    | cons m ns =>
      obtain ⟨t, rest⟩ := ih (by simp) others
      exact longer n (m :: ns) s t first rest

theorem exists_written_ands {ns : List QueryNode} (nonempty : ns ≠ [])
    (h : ∀ n ∈ ns, ∃ s, Written (.operand n) s) : ∃ s, Written (.ands ns) s := by
  refine exists_row (fun n => Written (.operand n)) (fun ns => Written (.ands ns)) ?_ ?_ nonempty h
  · intro n s first
    exact .conjunct first
  · intro n ms s t first rest
    have word : IsWord ['a', 'n', 'd'] "and".toList := by simp [IsWord]
    exact ⟨_, .and first gap_space word gap_space rest⟩

theorem exists_written_ors {ns : List QueryNode} (nonempty : ns ≠ [])
    (h : ∀ n ∈ ns, ∃ s, Written (.operand n) s) : ∃ s, Written (.ors ns) s := by
  refine exists_row (fun n => Written (.operand n)) (fun ns => Written (.ors ns)) ?_ ?_ nonempty h
  · intro n s first
    exact .disjunct (.conjunct first)
  · intro n ms s t first rest
    have word : IsWord ['o', 'r'] "or".toList := by simp [IsWord]
    exact ⟨_, .or (.conjunct first) gap_space word gap_space rest⟩

theorem exists_written {n : QueryNode} (h : Expression n) : ∃ s, Written (.operand n) s := by
  induction h with
  | is text named nonempty => exact ⟨_, .is text named nonempty padding_nil padding_nil⟩
  | range operator text named nonempty =>
    exact ⟨_, .range operator text named nonempty padding_nil padding_nil⟩
  | present named nonempty => exact ⟨_, .present named nonempty padding_nil padding_nil⟩
  | not _ ih =>
    obtain ⟨s, operand⟩ := ih
    have word : IsWord ['n', 'o', 't'] "not".toList := by simp [IsWord]
    exact ⟨_, .not operand word gap_space⟩
  | and many _ ih =>
    obtain ⟨s, row⟩ := exists_written_ands (by rintro rfl; simp at many) ih
    rw [← gathered_of_many many]
    exact ⟨_, .group (.disjunct row) padding_nil padding_nil⟩
  | or many _ ih =>
    obtain ⟨s, row⟩ := exists_written_ors (by rintro rfl; simp at many) ih
    rw [← gathered_of_many many]
    exact ⟨_, .group row padding_nil padding_nil⟩

theorem exists_writes {n : QueryNode} (h : Expression n) : ∃ text, Writes n text := by
  obtain ⟨s, operand⟩ := exists_written h
  exact ⟨String.ofList s, [n], [], s, [], .disjunct (.conjunct operand), rfl, padding_nil, padding_nil,
    by simp⟩

end MapLayer.Query
