import MapLayer.Proofs.Query.Written

/-!
Groups of values. Main statement: a field with a group of values is read as the same expression as the
group with the field in front of each of its values.
-/

namespace MapLayer.Query

open MapLayer.Text Clause

def Term.written : Term → List Char
  | quoted text => quote text
  | bare text => text.toList

/-- Whether any text may follow a value. -/
def Term.closed : Term → Bool
  | quoted _ => true
  | bare _ => false

/-- The values that can be written: without quotes only those that hold no character that ends them, and
are not the word `not`. -/
inductive Term.Writable : Term → Prop
  | quoted (text : String) : Writable (.quoted text)
  | bare {text : String} (nonempty : text ≠ "") (plain : ∀ c ∈ text.toList, isBareChar c = true)
    (unlike : ¬ IsWord ['n', 'o', 't'] text.toList) : Writable (.bare text)

/-- Combinations of values as they are written: with the keywords in their letter case, and with what stands
around keywords and inside of parentheses. -/
inductive Phrase
  | value (t : Term)
  | not (word after : List Char) (operand : Phrase)
  | group (before : List Char) (inner : Phrase) (after : List Char)
  | and (first : Phrase) (before word after : List Char) (others : Phrase)
  | or (first : Phrase) (before word after : List Char) (others : Phrase)

namespace Phrase

/-- The text of a combination, given the texts of its values. -/
def text (spell : Term → List Char) : Phrase → List Char
  | value t => spell t
  | not word after operand => word ++ (after ++ operand.text spell)
  | group before inner after => '(' :: (before ++ (inner.text spell ++ (after ++ [')'])))
  | and first before word after others | or first before word after others =>
    first.text spell ++ (before ++ (word ++ (after ++ others.text spell)))

def closed : Phrase → Bool
  | value t => t.closed
  | not _ _ operand => operand.closed
  | group .. => true
  | and _ _ _ _ others | or _ _ _ _ others => others.closed

def opened : Phrase → Bool
  | value _ | not .. => false
  | group .. => true
  | and first _ _ _ _ | or first _ _ _ _ => first.opened

/-- What a combination may be part of without parentheses. -/
inductive Rank
  | operand
  | conjunction
  | disjunction

/-- What stands between two operands: a keyword in any letter case, with spacing where it would run into
what is beside it. -/
structure Joins (first : Phrase) (before word after : List Char) (others : Phrase)
    (keyword : List Char) : Prop where
  named : IsWord keyword word
  front : Padding before
  apart : first.closed = true ∨ before ≠ []
  back : Padding after
  beyond : after ≠ [] ∨ others.opened = true

/-- The combinations that follow the grammar. -/
inductive Fits : Rank → Phrase → Prop
  | value {t : Term} (writable : t.Writable) : Fits .operand (.value t)
  | not {word after : List Char} {p : Phrase} (h : Fits .operand p) (named : IsWord ['n', 'o', 't'] word)
    (padding : Padding after) (beyond : after ≠ [] ∨ p.opened = true) :
    Fits .operand (.not word after p)
  | group {before after : List Char} {p : Phrase} (h : Fits .disjunction p) (front : Padding before)
    (back : Padding after) : Fits .operand (.group before p after)
  | conjunct {p : Phrase} (h : Fits .operand p) : Fits .conjunction p
  | and {p q : Phrase} {before word after : List Char} (h : Fits .operand p)
    (joins : Joins p before word after q ['a', 'n', 'd']) (others : Fits .conjunction q) :
    Fits .conjunction (.and p before word after q)
  | disjunct {p : Phrase} (h : Fits .conjunction p) : Fits .disjunction p
  | or {p q : Phrase} {before word after : List Char} (h : Fits .conjunction p)
    (joins : Joins p before word after q ['o', 'r']) (others : Fits .disjunction q) :
    Fits .disjunction (.or p before word after q)

end Phrase

/-- A reader that takes values in one spelling for the tests of a field. -/
structure Spelling {α : Type} (field : String) (atom : Reader α) (leaf : α → QueryNode)
    (spell : Term → List Char) : Prop where
  solid : ∀ {t : Term}, t.Writable → Solid (spell t)
  finds : ∀ {t : Term}, t.Writable → ∀ rest, t.closed = true ∨ Stops rest →
    ∃ a, Finds (readNot atom) (spell t ++ rest) (.atom a) rest ∧ leaf a = t.test field

namespace Phrase

section

variable {α : Type} {field : String} {atom : Reader α} {leaf : α → QueryNode} {spell : Term → List Char}
  {rank : Rank} {p : Phrase}

theorem Fits.solid (fits : p.Fits rank) (spelling : Spelling field atom leaf spell) :
    Solid (p.text spell) := by
  induction fits with
  | value writable => exact spelling.solid writable
  | not _ named =>
    have solid : Solid ['n', 'o', 't'] := ⟨_, _, rfl, by decide⟩
    exact (solid.of_isWord named).append _
  | group => exact ⟨'(', _, rfl, by decide⟩
  | conjunct _ ih => exact ih
  | and _ _ _ ih => exact ih.append _
  | disjunct _ ih => exact ih
  | or _ _ _ ih => exact ih.append _

theorem head?_of_opened (opened : p.opened = true) : (p.text spell).head? = some '(' := by
  induction p with
  | value => cases opened
  | not => cases opened
  | group => rfl
  | and first _ _ _ _ ih => simp [text, List.head?_append, ih opened]
  | or first _ _ _ _ ih => simp [text, List.head?_append, ih opened]

theorem parts_of_beyond {after : List Char} (padding : Padding after)
    (beyond : after ≠ [] ∨ p.opened = true) : Parts after (p.text spell) :=
  ⟨padding, beyond.imp_right head?_of_opened⟩

theorem Joins.stops {q : Phrase} {before word after keyword : List Char}
    (joins : Joins p before word after q keyword) (s : List Char) :
    p.closed = true ∨ Stops (before ++ s) :=
  joins.apart.imp_right fun apart => stops_of_gap ⟨joins.front, apart⟩ s

end

/-- Whatever reads the values of a part, reads the part as what it is a text of. -/
def ReadsAs (field : String) (p : Phrase) : Part → Prop
  | .operand n => ∀ {α : Type} {atom : Reader α} {leaf : α → QueryNode} {spell : Term → List Char},
    Spelling field atom leaf spell → ∀ rest, p.closed = true ∨ Stops rest →
    ∃ c, Finds (readNot atom) (p.text spell ++ rest) c rest ∧ c.node leaf = n
  | .ands ns => ∀ {α : Type} {atom : Reader α} {leaf : α → QueryNode} {spell : Term → List Char},
    Spelling field atom leaf spell → ∀ rest, p.closed = true ∨ Stops rest →
    Ends ['a', 'n', 'd'] rest →
    ∃ cs, FindsRow (readNot atom) (readAnds atom) (p.text spell ++ rest) cs rest ∧ nodes leaf cs = ns
  | .ors ns => ∀ {α : Type} {atom : Reader α} {leaf : α → QueryNode} {spell : Term → List Char},
    Spelling field atom leaf spell → ∀ rest, p.closed = true ∨ Stops rest →
    Ends ['a', 'n', 'd'] rest → Ends ['o', 'r'] rest →
    ∃ cs, FindsRow (readAnd atom) (readOrs atom) (p.text spell ++ rest) cs rest ∧ nodes leaf cs = ns

def IsRead (field : String) (p : Phrase) : Rank → Prop
  | .operand => ∃ n, p.ReadsAs field (.operand n)
  | .conjunction => ∃ ns, p.ReadsAs field (.ands ns)
  | .disjunction => ∃ ns, p.ReadsAs field (.ors ns)

theorem Fits.isRead {rank : Rank} {p : Phrase} (fits : p.Fits rank) (field : String) :
    p.IsRead field rank := by
  -- what is read is chosen before the spelling, so that both spellings give the same
  induction fits with
  | @value t writable =>
    refine ⟨t.test field, fun spelling rest ends => ?_⟩
    obtain ⟨a, found, same⟩ := spelling.finds writable rest ends
    exact ⟨.atom a, found, same⟩
  | not h named padding beyond ih =>
    obtain ⟨n, reads⟩ := ih
    refine ⟨.function "not" [n], fun spelling => ?_⟩
    exact ReadsOperand.not (reads spelling) (h.solid spelling) named (parts_of_beyond padding beyond)
  | group h front back ih =>
    obtain ⟨ns, reads⟩ := ih
    refine ⟨gathered "or" ns, fun spelling => ?_⟩
    exact ReadsOrs.group (reads spelling) (h.solid spelling) front back
      fun rest => .inr (stops_of_padding back (stops_close rest))
  | conjunct _ ih =>
    obtain ⟨n, reads⟩ := ih
    exact ⟨[n], fun spelling => ReadsOperand.alone (reads spelling)⟩
  | and _ joins others ih ihs =>
    obtain ⟨n, reads⟩ := ih
    obtain ⟨ns, readsOthers⟩ := ihs
    refine ⟨n :: ns, fun spelling => ?_⟩
    exact ReadsOperand.and (reads spelling) (readsOthers spelling) (others.solid spelling) joins.front
      joins.named (parts_of_beyond joins.back joins.beyond) joins.stops
  | disjunct _ ih =>
    obtain ⟨ns, reads⟩ := ih
    exact ⟨[gathered "and" ns], fun spelling => ReadsAnds.alone (reads spelling)⟩
  | or _ joins others ih ihs =>
    obtain ⟨ns, reads⟩ := ih
    obtain ⟨ms, readsOthers⟩ := ihs
    refine ⟨gathered "and" ns :: ms, fun spelling => ?_⟩
    exact ReadsAnds.or (reads spelling) (readsOthers spelling) (others.solid spelling) joins.front
      joins.named (parts_of_beyond joins.back joins.beyond) joins.stops

end Phrase

section

variable {t : Term} {rest : List Char} {field : String}

theorem isBareChar_capital : ∀ n < 26, isBareChar (Char.ofNat (65 + n)) = true := by decide

theorem isBareChar_of_toLower {c : Char} (h : c.toLower ∈ ['n', 'o', 't']) :
    isBareChar c = true := by
  unfold Char.toLower at h
  split at h
  · rename_i capital
    have bounds : 65 ≤ c.toNat ∧ c.toNat ≤ 90 := capital
    have inside := isBareChar_capital (c.toNat - 65) (by omega)
    rwa [Nat.add_sub_cancel' bounds.1, Char.ofNat_toNat] at inside
  · simp only [List.mem_cons, List.not_mem_nil, or_false] at h
    rcases h with rfl | rfl | rfl <;> decide

theorem isSpacing_of_isBareChar {c : Char} (bare : isBareChar c = true) :
    isSpacing c = false ∧ c ≠ '(' := by
  constructor
  · exact Bool.eq_false_iff.2 fun spacing => by
      simp [isBareChar, isBlank_of_isSpacing spacing] at bare
  · rintro rfl
    exact absurd bare (by decide)

theorem Term.Writable.exists_cons (writable : t.Writable) :
    ∃ c cs, t.written = c :: cs ∧ isSpacing c = false ∧ c ≠ '(' := by
  cases writable with
  | quoted text => exact ⟨'"', _, rfl, by decide, by decide⟩
  | @bare text nonempty plain =>
    cases chars : text.toList with
    | nil => exact absurd (String.toList_eq_nil_iff.1 chars) nonempty
    | cons c cs => exact ⟨c, cs, chars, isSpacing_of_isBareChar (plain c (by simp [chars]))⟩

theorem Term.Writable.solid (writable : t.Writable) : Solid t.written := by
  obtain ⟨c, cs, written, filled, -⟩ := writable.exists_cons
  exact ⟨c, cs, written, filled⟩

theorem Term.Writable.unopened (writable : t.Writable) (rest : List Char) :
    (t.written ++ rest).head? ≠ some '(' := by
  obtain ⟨c, cs, written, -, other⟩ := writable.exists_cons
  simpa [written] using other

theorem Term.Writable.unlike (writable : t.Writable) (ends : t.closed = true ∨ Stops rest) :
    afterKeyword? ['n', 'o', 't'] (t.written ++ rest) = none := by
  cases writable with
  | quoted text => exact afterKeyword?_eq_none (by decide) _ _
  | @bare text nonempty plain unlike =>
    have stops : Stops rest := ends.resolve_left (by simp [Term.closed])
    refine Option.eq_none_iff_forall_ne_some.2 fun r found => unlike ?_
    refine (eq_of_afterKeyword? (fun c hc => isSpacing_of_isBareChar (plain c hc)) ?_ found).2
    intro c hc lower
    have outside := stops c hc
    rw [isBareChar_of_toLower lower] at outside
    cases outside

theorem Term.Writable.finds (writable : t.Writable) (ends : t.closed = true ∨ Stops rest) :
    Finds termReader (t.written ++ rest) t rest := by
  cases writable with
  | quoted text => exact finds_termReader_quote text rest
  | @bare text nonempty plain =>
    have stops : Stops rest := ends.resolve_left (by simp [Term.closed])
    have chars : text.toList ≠ [] := fun e => nonempty (String.toList_eq_nil_iff.1 e)
    have found := finds_termReader_bare chars plain stops
    rwa [String.ofList_toList] at found

theorem spelling_written (field : String) :
    Spelling field termReader (Term.test field) Term.written where
  solid writable := writable.solid
  finds {t} writable rest ends := by
    obtain ⟨found, read, same, left⟩ := writable.finds ends
    refine ⟨t, ⟨found.as (.atom found.value), ?_, congrArg Clause.atom same, left⟩, rfl⟩
    rw [readNot_eq_atom (writable.unlike ends) (writable.unopened rest), read]
    rfl

def Term.tested (field : String) (t : Term) : List Char := field.toList ++ ':' :: t.written

theorem spelling_tested (named : IsField field) (nonempty : field ≠ "") :
    Spelling field fieldReader FieldTest.node (Term.tested field) where
  solid _ := (solid_field named nonempty).append _
  finds {t} writable rest ends := by
    have values := finds_valuesReader (writable.finds ends) (writable.unopened rest)
    have test := finds_readNot_values named nonempty padding_nil padding_nil values
      (writable.solid.append rest)
    refine ⟨.values field (.atom t), ?_, rfl⟩
    simpa only [Term.tested, List.append_assoc, List.cons_append, List.nil_append] using test

theorem Phrase.filled {spell : Term → List Char} (each : ∀ t, ∃ c ∈ spell t, isBlank c = false)
    (p : Phrase) : ∃ c ∈ p.text spell, isBlank c = false := by
  induction p with
  | value t => exact each t
  | not word after operand ih =>
    obtain ⟨c, hc, filled⟩ := ih
    exact ⟨c, by simp [text, hc], filled⟩
  | group => exact ⟨'(', by simp [text], by decide⟩
  | and first before word after others ih | or first before word after others ih =>
    obtain ⟨c, hc, filled⟩ := ih
    exact ⟨c, by simp [text, hc], filled⟩

theorem finds_readOr_operand {c : Clause FieldTest} {s : List Char}
    (h : Finds (readNot fieldReader) s c []) :
    ∃ d, Finds (readOr fieldReader) s d [] ∧ d.node FieldTest.node = c.node FieldTest.node := by
  have row := (chain_ands fieldReader).one h (ends_of_end padding_nil _ _)
  obtain ⟨d, found, same⟩ := finds_readAnd FieldTest.node row
  have rows := (chain_ors fieldReader).one found (ends_of_end padding_nil _ _)
  obtain ⟨e, found, equal⟩ := finds_readOr FieldTest.node rows
  exact ⟨e, found, by rw [equal, nodes, same]; rfl⟩

end

/-- A field with a group of values is read as the group with the field before each value. -/
theorem parse_group {field : String} (named : IsField field) (nonempty : field ≠ "") {p : Phrase}
    (fits : p.Fits .disjunction) {before after : List Char} (front : Padding before)
    (back : Padding after) :
    ∃ node,
      parse (String.ofList
        (field.toList ++ ":(".toList ++ before ++ p.text Term.written ++ after ++ [')']))
        = .ok (some node) ∧
      parse (String.ofList (before ++ p.text (Term.tested field) ++ after)) = .ok (some node) := by
  obtain ⟨ns, reads⟩ := fits.isRead field
  refine ⟨gathered "or" ns, ?_, ?_⟩
  · have spelling := spelling_written field
    obtain ⟨cs, row, rfl⟩ := reads spelling (after ++ [')'])
      (.inr (stops_of_padding back (stops_close [])))
      ((ends_of_padding back _).2 (ends_close (by decide) _ []))
      ((ends_of_padding back _).2 (ends_close (by decide) _ []))
    obtain ⟨c, found, same⟩ := finds_readOr (Term.test field) row
    have group := finds_readGroup found front ((fits.solid spelling).append _) back
    have values := finds_valuesReader_group group
    have test := finds_readNot_values named nonempty padding_nil padding_nil values
      ⟨'(', _, rfl, by decide⟩
    obtain ⟨d, whole, equal⟩ := finds_readOr_operand test
    rw [← List.append_nil (field.toList ++ _)] at whole
    rw [parse_of_finds whole ((solid_field named nonempty).append _) ⟨':', by simp, by decide⟩
      padding_nil padding_nil (by simp), equal, Clause.node, FieldTest.node, same]
  · have spelling := spelling_tested named nonempty
    obtain ⟨cs, row, rfl⟩ := reads spelling after (.inr (stops_of_end back)) (ends_of_end back _ _)
      (ends_of_end back _ _)
    obtain ⟨c, found, same⟩ := finds_readOr FieldTest.node row
    have colon (t : Term) : ∃ c ∈ t.tested field, isBlank c = false :=
      ⟨':', by simp [Term.tested], by decide⟩
    rw [← same]
    exact parse_of_finds found (fits.solid spelling) (Phrase.filled colon p) front back
      String.toList_ofList

/-- The field is the word `not`, and keywords stand beside quotes and parentheses without spacing. -/
theorem parse_group_keyword :
    let choice := Phrase.or (.not "NOT".toList [' '] (.value (.bare "*"))) [' '] "or".toList [' ']
      (.value (.bare "gold*"))
    let p := Phrase.and (.value (.quoted "a b")) [] "and".toList [] (.group [] choice [])
    (IsField "not" ∧ "not" ≠ "" ∧ p.Fits .disjunction ∧ Padding []) ∧
    ∃ node, parse "not:(\"a b\"and(NOT * or gold*))" = .ok (some node) ∧
      parse "not:\"a b\"and(NOT not:* or not:gold*)" = .ok (some node) := by
  intro choice p
  have named : IsField "not" := by decide
  have star : (Term.bare "*").Writable := .bare (by decide) (by decide) (by decide)
  have gold : (Term.bare "gold*").Writable := .bare (by decide) (by decide) (by decide)
  have space : Padding [' '] := gap_space.1
  have absent : Phrase.Fits .operand (.not "NOT".toList [' '] (.value (.bare "*"))) :=
    .not (.value star) (by decide) space (.inl (by simp))
  have either : choice.Fits .disjunction :=
    .or (.conjunct absent) ⟨by decide, space, .inr (by simp), space, .inl (by simp)⟩
      (.disjunct (.conjunct (.value gold)))
  have group : Phrase.Fits .operand (.group [] choice []) := .group either padding_nil padding_nil
  have fits : p.Fits .disjunction :=
    .disjunct (.and (.value (.quoted "a b"))
      ⟨by decide, padding_nil, .inl rfl, padding_nil, .inr rfl⟩ (.conjunct group))
  obtain ⟨node, grouped, tested⟩ := parse_group named (by simp) fits padding_nil padding_nil
  refine ⟨⟨named, by simp, fits, padding_nil⟩, node, ?_, ?_⟩
  · simpa [p, choice, Phrase.text, Term.written, quote, escape] using grouped
  · simpa [p, choice, Phrase.text, Term.tested, Term.written, quote, escape] using tested

end MapLayer.Query
