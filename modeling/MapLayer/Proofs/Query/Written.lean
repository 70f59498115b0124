import MapLayer.Proofs.Query.Fields
import MapLayer.Proofs.Text.Pieces

/-!
Reading written expressions. Main statement: every expression can be written, and is read back from each
of its texts.
-/

namespace MapLayer.Query

open MapLayer.Text Clause

theorem Written.solid {part : Part} {s : List Char} (h : Written part s) : Solid s := by
  induction h with
  | is _ named nonempty => simpa only [List.append_assoc] using (solid_field named nonempty).append _
  | range _ _ named nonempty => simpa only [List.append_assoc] using (solid_field named nonempty).append _
  | present named nonempty => simpa only [List.append_assoc] using (solid_field named nonempty).append _
  | not _ word =>
    have solid : Solid ['n', 'o', 't'] := ⟨_, _, rfl, by decide⟩
    simpa only [List.append_assoc] using (solid.of_isWord word).append _
  | group => exact ⟨'(', _, rfl, by decide⟩
  | conjunct _ ih => exact ih
  | and _ _ _ _ _ ih => simpa only [List.append_assoc] using ih.append _
  | disjunct _ ih => exact ih
  | or _ _ _ _ _ ih => simpa only [List.append_assoc] using ih.append _

theorem Written.filled {part : Part} {s : List Char} (h : Written part s) :
    ∃ c ∈ s, isBlank c = false := by
  induction h with
  | is text => exact ⟨'"', by simp [quote], by decide⟩
  | range _ text => exact ⟨'"', by simp [quote], by decide⟩
  | present => exact ⟨'*', by simp, by decide⟩
  | not _ _ _ ih =>
    obtain ⟨c, hc, filled⟩ := ih
    exact ⟨c, by simp [hc], filled⟩
  | group => exact ⟨'(', by simp, by decide⟩
  | conjunct _ ih => exact ih
  | and _ _ _ _ _ ih =>
    obtain ⟨c, hc, filled⟩ := ih
    exact ⟨c, by simp [hc], filled⟩
  | disjunct _ ih => exact ih
  | or _ _ _ _ _ ih =>
    obtain ⟨c, hc, filled⟩ := ih
    exact ⟨c, by simp [hc], filled⟩

/-- A part in front of other text is read as what it is a text of. -/
def ReadsBack : Part → List Char → Prop
  | .operand n, s => ∀ rest, Stops rest →
    ∃ c, Finds (readNot fieldReader) (s ++ rest) c rest ∧ c.node FieldTest.node = n
  | .ands ns, s => ∀ rest, Stops rest → Ends ['a', 'n', 'd'] rest →
    ∃ cs, FindsRow (readNot fieldReader) (readAnds fieldReader) (s ++ rest) cs rest ∧
      nodes FieldTest.node cs = ns
  | .ors ns, s => ∀ rest, Stops rest → Ends ['a', 'n', 'd'] rest → Ends ['o', 'r'] rest →
    ∃ cs, FindsRow (readAnd fieldReader) (readOrs fieldReader) (s ++ rest) cs rest ∧
      nodes FieldTest.node cs = ns

section rests

variable {b w s : List Char}

theorem stops_of_gap (gap : Gap b) (s : List Char) : Stops (b ++ s) := by
  obtain ⟨padding, nonempty⟩ := gap
  cases b with
  | nil => contradiction
  | cons c b =>
    rintro _ ⟨⟩
    simp [isBareChar, isBlank_of_isSpacing (padding c List.mem_cons_self)]

theorem stops_of_padding (padding : Padding b) (h : Stops s) : Stops (b ++ s) := by
  cases b with
  | nil => exact h
  | cons c b => exact stops_of_gap ⟨padding, by simp⟩ s

theorem ends_of_padding (padding : Padding b) (word : List Char) : Ends word (b ++ s) ↔ Ends word s := by
  rw [Ends, Ends, skip_append padding]

theorem stops_of_end (padding : Padding b) : Stops b := by
  simpa using stops_of_padding padding (s := []) (by rintro _ ⟨⟩)

theorem ends_of_end (padding : Padding b) (c : Char) (word : List Char) : Ends (c :: word) b := by
  rw [Ends, skip_padding padding]
  rfl

theorem stops_close (s : List Char) : Stops (')' :: s) := by
  rintro _ ⟨⟩
  decide

theorem ends_close {c : Char} (other : c ≠ ')') (word s : List Char) : Ends (c :: word) (')' :: s) := by
  rw [Ends, skip_of_solid ⟨_, _, rfl, by decide⟩]
  exact afterKeyword?_eq_none (Ne.symm other) word s

/-- A row of operands of `and` ends before an `or`. -/
theorem ends_of_or (named : IsWord ['o', 'r'] w) (s : List Char) : Ends ['a', 'n', 'd'] (w ++ s) := by
  have solid : Solid ['o', 'r'] := ⟨_, _, rfl, by decide⟩
  rw [Ends, skip_of_solid ((solid.of_isWord named).append s)]
  obtain ⟨c, u, rfl, first, -⟩ := List.map_eq_cons_iff.1 named
  exact afterKeyword?_eq_none (by rw [first]; decide) _ _

end rests

section readings

variable {α : Type} {atom : Reader α} {leaf : α → QueryNode} {mayFollow mayEnd : List Char → Prop}
  {s t w b b' : List Char} {n : QueryNode} {ns ms : List QueryNode}

/-- A text is read as one operand, whatever follows of what may follow. -/
def ReadsOperand (atom : Reader α) (leaf : α → QueryNode) (mayFollow : List Char → Prop) (s : List Char)
    (n : QueryNode) : Prop :=
  ∀ rest, mayFollow rest → ∃ c, Finds (readNot atom) (s ++ rest) c rest ∧ c.node leaf = n

def ReadsAnds (atom : Reader α) (leaf : α → QueryNode) (mayFollow : List Char → Prop) (s : List Char)
    (ns : List QueryNode) : Prop :=
  ∀ rest, mayFollow rest → Ends ['a', 'n', 'd'] rest →
    ∃ cs, FindsRow (readNot atom) (readAnds atom) (s ++ rest) cs rest ∧ nodes leaf cs = ns

def ReadsOrs (atom : Reader α) (leaf : α → QueryNode) (mayFollow : List Char → Prop) (s : List Char)
    (ns : List QueryNode) : Prop :=
  ∀ rest, mayFollow rest → Ends ['a', 'n', 'd'] rest → Ends ['o', 'r'] rest →
    ∃ cs, FindsRow (readAnd atom) (readOrs atom) (s ++ rest) cs rest ∧ nodes leaf cs = ns

theorem ReadsOperand.not (h : ReadsOperand atom leaf mayFollow s n) (solid : Solid s)
    (named : IsWord ['n', 'o', 't'] w) (parts : Parts b s) :
    ReadsOperand atom leaf mayFollow (w ++ (b ++ s)) (.function "not" [n]) := by
  intro rest follows
  obtain ⟨c, found, rfl⟩ := h rest follows
  have negated := finds_readNot_not found named (parts.append rest) (solid.append rest)
  refine ⟨.not c, ?_, rfl⟩
  simpa only [List.append_assoc] using negated

/-- Anything may follow a group, if its closing parenthesis may follow what is in it. -/
theorem ReadsOrs.group (h : ReadsOrs atom leaf mayEnd s ns) (solid : Solid s) (before : Padding b)
    (after : Padding b') (closes : ∀ rest, mayEnd (b' ++ ')' :: rest)) :
    ReadsOperand atom leaf mayFollow ('(' :: (b ++ (s ++ (b' ++ [')'])))) (gathered "or" ns) := by
  intro rest _
  obtain ⟨cs, row, rfl⟩ := h (b' ++ ')' :: rest) (closes rest)
    ((ends_of_padding after _).2 (ends_close (by decide) _ rest))
    ((ends_of_padding after _).2 (ends_close (by decide) _ rest))
  obtain ⟨c, found, same⟩ := finds_readOr leaf row
  have grouped := finds_readNot_group found before (solid.append _) after
  refine ⟨c, ?_, same⟩
  simpa only [List.append_assoc, List.cons_append, List.nil_append] using grouped

theorem ReadsOperand.alone (h : ReadsOperand atom leaf mayFollow s n) :
    ReadsAnds atom leaf mayFollow s [n] := by
  intro rest follows ends
  obtain ⟨c, found, rfl⟩ := h rest follows
  exact ⟨[c], (chain_ands atom).one found ends, rfl⟩

theorem ReadsAnds.alone (h : ReadsAnds atom leaf mayFollow s ns) :
    ReadsOrs atom leaf mayFollow s [gathered "and" ns] := by
  intro rest follows andEnds orEnds
  obtain ⟨cs, row, rfl⟩ := h rest follows andEnds
  obtain ⟨c, found, same⟩ := finds_readAnd leaf row
  exact ⟨[c], (chain_ors atom).one found orEnds, by rw [nodes, same, nodes]⟩

theorem ReadsOperand.and (h : ReadsOperand atom leaf mayFollow s n)
    (others : ReadsAnds atom leaf mayEnd t ns) (solid : Solid t) (before : Padding b)
    (named : IsWord ['a', 'n', 'd'] w) (parts : Parts b' t) (follows : ∀ u, mayFollow (b ++ u)) :
    ReadsAnds atom leaf mayEnd (s ++ (b ++ (w ++ (b' ++ t)))) (n :: ns) := by
  intro rest stops ends
  obtain ⟨cs, row, rfl⟩ := others rest stops ends
  obtain ⟨c, found, rfl⟩ := h (b ++ (w ++ (b' ++ (t ++ rest)))) (follows _)
  have longer := (chain_ands atom).cons found before named (parts.append rest) (solid.append rest) row
  refine ⟨c :: cs, ?_, rfl⟩
  simpa only [List.append_assoc] using longer

theorem ReadsAnds.or (h : ReadsAnds atom leaf mayFollow s ns) (others : ReadsOrs atom leaf mayEnd t ms)
    (solid : Solid t) (before : Padding b) (named : IsWord ['o', 'r'] w) (parts : Parts b' t)
    (follows : ∀ u, mayFollow (b ++ u)) :
    ReadsOrs atom leaf mayEnd (s ++ (b ++ (w ++ (b' ++ t)))) (gathered "and" ns :: ms) := by
  intro rest stops andEnds orEnds
  obtain ⟨ds, row, rfl⟩ := others rest stops andEnds orEnds
  obtain ⟨cs, first, rfl⟩ := h (b ++ (w ++ (b' ++ (t ++ rest)))) (follows _)
    ((ends_of_padding before _).2 (ends_of_or named _))
  obtain ⟨c, found, same⟩ := finds_readAnd leaf first
  have longer := (chain_ors atom).cons found before named (parts.append rest) (solid.append rest) row
  refine ⟨c :: ds, ?_, by rw [nodes, same]⟩
  simpa only [List.append_assoc] using longer

end readings

theorem Written.readsBack {part : Part} {s : List Char} (h : Written part s) : ReadsBack part s := by
  induction h with
  | is text named nonempty before after =>
    intro rest _
    have operand := finds_readNot_values named nonempty before after
      (finds_valuesReader (finds_termReader_quote text rest) (by simp [quote])) (solid_quote text rest)
    simp only [List.append_assoc, List.cons_append, List.nil_append]
    exact ⟨_, operand, rfl⟩
  | range operator text named nonempty before after =>
    intro rest _
    have operand := finds_readNot_range named nonempty operator text before after rest
    simp only [List.append_assoc]
    exact ⟨_, operand, rfl⟩
  | present named nonempty before after =>
    intro rest stops
    have star : Finds termReader ('*' :: rest) (.bare "*") rest :=
      finds_termReader_bare (w := ['*']) (by simp) (by decide) stops
    have operand := finds_readNot_values named nonempty before after
      (finds_valuesReader star (by simp)) ⟨'*', rest, rfl, by decide⟩
    simp only [List.append_assoc, List.cons_append, List.nil_append]
    exact ⟨_, operand, rfl⟩
  | not h word after ih =>
    rw [List.append_assoc]
    exact ReadsOperand.not ih h.solid word (parts_of_gap after _)
  | group h before after ih =>
    simp only [List.append_assoc, List.cons_append, List.nil_append]
    exact ReadsOrs.group ih h.solid before after fun rest => stops_of_padding after (stops_close rest)
  | conjunct _ ih => exact ReadsOperand.alone ih
  | and _ before word after others ih ihs =>
    simp only [List.append_assoc]
    exact ReadsOperand.and ih ihs others.solid before.1 word (parts_of_gap after _)
      (stops_of_gap before)
  | disjunct _ ih => exact ReadsAnds.alone ih
  | or _ before word after others ih ihs =>
    simp only [List.append_assoc]
    exact ReadsAnds.or ih ihs others.solid before.1 word (parts_of_gap after _) (stops_of_gap before)

theorem parse_of_finds {text : String} {s b b' : List Char} {c : Clause FieldTest}
    (h : Finds (readOr fieldReader) (s ++ b') c b') (start : Solid s)
    (filled : ∃ d ∈ s, isBlank d = false) (before : Padding b) (after : Padding b')
    (chars : text.toList = b ++ s ++ b') : parse text = .ok (some (c.node FieldTest.node)) := by
  have front : skip text.toList = s ++ b' := by
    rw [chars, List.append_assoc, skip_append_solid before (start.append b')]
  rw [← front] at h
  obtain ⟨t, read, rfl, left⟩ := h
  have whole : skip t.rest = [] := by
    rw [left, skip_padding after]
  have nonblank : trim text.toList ≠ [] := by
    intro blank
    obtain ⟨d, hd, solid⟩ := filled
    rw [isBlank_of_trim_eq_nil blank d (by simp [chars, hd])] at solid
    contradiction
  have found : read? text.toList = some (t.value.node FieldTest.node) := by
    rw [read?, read]
    exact if_pos whole
  rw [parse, if_neg nonblank, found]

theorem parse_of_writes {n : QueryNode} {text : String} (h : Writes n text) :
    parse text = .ok (some n) := by
  obtain ⟨ns, b, s, b', written, rfl, before, after, chars⟩ := h
  obtain ⟨cs, row, same⟩ := written.readsBack b' (stops_of_end after) (ends_of_end after _ _)
    (ends_of_end after _ _)
  obtain ⟨c, found, joined⟩ := finds_readOr FieldTest.node row
  rw [parse_of_finds found written.solid written.filled before after chars, joined, same]

theorem escape_plain {s : List Char} (plain : ∀ c ∈ s, c ≠ '"' ∧ c ≠ '\\') : escape s = s := by
  induction s with
  | nil => rfl
  | cons c s ih =>
    obtain ⟨first, others⟩ := List.forall_mem_cons.1 plain
    have same : escape s = s := ih others
    rw [escape, List.flatMap_cons, if_neg (not_or.2 ⟨first.2, first.1⟩)]
    exact congrArg (List.cons c) same

theorem parse_quoted {field value : String} (named : IsField field) (nonempty : field ≠ "")
    (plain : ∀ c ∈ value.toList, c ≠ '"' ∧ c ≠ '\\') :
    parse (field ++ ":\"" ++ value ++ "\"")
      = .ok (some (.function "is" [.literal field, .literal value])) := by
  have test := Written.is value named nonempty padding_nil padding_nil
  exact parse_of_writes ⟨_, [], _, [], .disjunct (.conjunct test), rfl, padding_nil, padding_nil,
    by simp [quote, escape_plain plain]⟩

/-- Every expression can be written, and is read back from all of its texts. -/
theorem parse_expression {n : QueryNode} (h : Expression n) :
    (∃ text, Writes n text) ∧ ∀ text, Writes n text → parse text = .ok (some n) :=
  ⟨exists_writes h, fun _ => parse_of_writes⟩

/-- Keywords are read as fields where a sign follows. -/
theorem parse_expression_keywords :
    parse "not and : \"it\\\"s\" OR (or:* )" = .ok (some (.function "or"
      [.function "not" [.function "is" [.literal "and", .literal "it\"s"]],
        .function "exists" [.literal "or"]])) := by
  have named : IsField "and" ∧ IsField "or" := by decide
  have expression : Expression (.function "or"
      [.function "not" [.function "is" [.literal "and", .literal "it\"s"]],
        .function "exists" [.literal "or"]]) := by
    refine .or (by simp) (List.forall_mem_cons.2 ⟨?_, List.forall_mem_singleton.2 ?_⟩)
    · exact .not (.is _ named.1 (by simp))
    · exact .present named.2 (by simp)
  have first := Written.is "it\"s" named.1 (by simp) gap_space.1 gap_space.1
  have second := Written.present named.2 (by simp) padding_nil padding_nil
  have group := Written.group (.disjunct (.conjunct second)) padding_nil gap_space.1
  have row := Written.or (.conjunct (.not first (w := "not".toList) (by simp [IsWord]) gap_space))
    gap_space (w := "OR".toList) (by simp [IsWord]) gap_space (.disjunct (.conjunct group))
  exact (parse_expression expression).2 _
    ⟨_, [], _, [], row, rfl, padding_nil, padding_nil, by simp [quote, escape]⟩

end MapLayer.Query
