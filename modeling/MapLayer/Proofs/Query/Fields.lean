import MapLayer.Proofs.Query.Rows

/-!
Reading tests of fields. Main statement: a test is read as an operand, also if its field is a keyword.
-/

namespace MapLayer.Query

open MapLayer.Text Clause

/-- Text at which a value without quotes ends. -/
def Stops (rest : List Char) : Prop := ∀ c ∈ rest.head?, isBareChar c = false

section values

variable {s rest : List Char}

theorem quotedText?_escape (s rest : List Char) :
    quotedText? (escape s ++ '"' :: rest) = some (s, rest) := by
  induction s with
  | nil => rfl
  | cons c s ih =>
    simp only [escape, List.flatMap_cons, List.append_assoc] at ih ⊢
    by_cases special : c = '\\' ∨ c = '"'
    · rw [if_pos special, List.cons_append, List.cons_append, List.nil_append, quotedText?, ih]
      rw [if_pos (by simpa using special)]
      rfl
    · obtain ⟨notSlash, notQuote⟩ := not_or.1 special
      rw [if_neg special, List.cons_append, List.nil_append, quotedText?, ih]
      · simp [notSlash]
      all_goals simp [notSlash, notQuote]

theorem finds_termReader_quote (text : String) (rest : List Char) :
    Finds termReader (quote text ++ rest) (.quoted text) rest := by
  have chars : quote text ++ rest = '"' :: (escape text.toList ++ '"' :: rest) := by simp [quote]
  have quoted : Finds quotedReader ('"' :: (escape text.toList ++ '"' :: rest)) (.quoted text) rest := by
    unfold Finds
    simp only [quotedReader]
    split
    · rename_i none
      rw [quotedText?_escape] at none
      cases none
    · rename_i found
      rw [quotedText?_escape] at found
      cases found
      exact ⟨_, rfl, congrArg Term.quoted String.ofList_toList, rfl⟩
  obtain ⟨t, read, same, left⟩ := quoted
  rw [chars]
  refine ⟨t, ?_, same, left⟩
  rw [termReader, read]

theorem finds_spanReader {p : Char → Bool} {w : List Char} (nonempty : w ≠ [])
    (inside : ∀ c ∈ w, p c = true) (outside : ∀ c ∈ rest.head?, p c = false) :
    Finds (spanReader p) (w ++ rest) (String.ofList w) rest := by
  cases w with
  | nil => contradiction
  | cons c w =>
    obtain ⟨first, others⟩ := List.forall_mem_cons.1 inside
    have taken : (w ++ rest).takeWhile p = w ∧ (w ++ rest).dropWhile p = rest := by
      rw [List.takeWhile_append_of_pos others, List.dropWhile_append_of_pos others]
      cases rest with
      | nil => simp
      | cons d rest =>
        have other : p d = false := outside d rfl
        simp [other]
    rw [List.cons_append]
    refine ⟨_, if_pos first, ?_, taken.2⟩
    exact congrArg (fun w => String.ofList (c :: w)) taken.1

theorem quotedReader_eq_none (unquoted : s.head? ≠ some '"') : quotedReader s = none := by
  unfold quotedReader
  split
  · exact absurd rfl unquoted
  · rfl

theorem finds_termReader_bare {w : List Char} (nonempty : w ≠ [])
    (plain : ∀ c ∈ w, isBareChar c = true) (stops : Stops rest) :
    Finds termReader (w ++ rest) (.bare (String.ofList w)) rest := by
  obtain ⟨t, read, same, left⟩ := finds_spanReader nonempty plain stops
  have unquoted : quotedReader (w ++ rest) = none := by
    refine quotedReader_eq_none ?_
    cases w with
    | nil => contradiction
    | cons c w =>
      have first := plain c List.mem_cons_self
      rintro ⟨⟩
      exact absurd first (by decide)
  refine ⟨t.as (.bare t.value), ?_, congrArg Term.bare same, left⟩
  rw [termReader, unquoted, read]
  rfl

theorem finds_valuesReader {t : Term} (h : Finds termReader s t rest) (unopened : s.head? ≠ some '(') :
    Finds valuesReader s (.atom t) rest := by
  obtain ⟨found, read, rfl, left⟩ := h
  refine ⟨found.as (.atom found.value), ?_, rfl, left⟩
  rw [valuesReader, readGroup_eq_none unopened, read]
  rfl

theorem finds_valuesReader_group {c : Clause Term} (h : Finds (readGroup termReader) s c rest) :
    Finds valuesReader s c rest := by
  obtain ⟨found, read, same, left⟩ := h
  exact ⟨found, by rw [valuesReader, read], same, left⟩

theorem finds_operatorReader (operator : RangeOperator) (h : s.head? ≠ some '=') :
    Finds operatorReader (operator.sign ++ s) operator s := by
  cases operator with
  | lessOrEqual => exact ⟨_, rfl, rfl, rfl⟩
  | greaterOrEqual => exact ⟨_, rfl, rfl, rfl⟩
  | less =>
    cases s with
    | nil => exact ⟨_, rfl, rfl, rfl⟩
    | cons c s =>
      have other : c ≠ '=' := fun e => h (by simp [e])
      simp [Finds, RangeOperator.sign, operatorReader, other]
  | greater =>
    cases s with
    | nil => exact ⟨_, rfl, rfl, rfl⟩
    | cons c s =>
      have other : c ≠ '=' := fun e => h (by simp [e])
      simp [Finds, RangeOperator.sign, operatorReader, other]

end values

section tests

variable {field : String} {b u rest : List Char} {c : Char}

/-- The characters that a test has after its field. -/
def IsSign (c : Char) : Prop := c = ':' ∨ c = '<' ∨ c = '>'

theorem solid_sign (sign : IsSign c) : Solid (c :: u) := by
  refine ⟨c, u, rfl, ?_⟩
  rcases sign with rfl | rfl | rfl <;> decide

/-- What follows a field is no part of it, and of no keyword. -/
theorem outside_field (padding : Padding b) (sign : IsSign c) :
    ∀ d ∈ (b ++ c :: u).head?, isFieldChar d = false ∧ d.toLower ∉ ['n', 'o', 't'] := by
  intro d hd
  have among : isSpacing d = true ∨ IsSign d := by
    cases b with
    | nil =>
      obtain rfl : c = d := Option.some.inj hd
      exact .inr sign
    | cons e b =>
      obtain rfl : e = d := Option.some.inj hd
      exact .inl (padding e List.mem_cons_self)
  rcases among with spacing | rfl | rfl | rfl
  · simp only [isSpacing, Bool.or_eq_true, beq_iff_eq] at spacing
    rcases spacing with ((rfl | rfl) | rfl) | rfl <;> decide
  · decide
  · decide
  · decide

theorem finds_field (named : IsField field) (nonempty : field ≠ "") (padding : Padding b)
    (sign : IsSign c) :
    Finds (spanReader isFieldChar) (field.toList ++ (b ++ c :: u)) field (b ++ c :: u) := by
  have chars : field.toList ≠ [] := fun e => nonempty (String.toList_eq_nil_iff.1 e)
  have outside : ∀ d ∈ (b ++ c :: u).head?, isFieldChar d = false := fun d hd =>
    (outside_field padding sign d hd).1
  have found := finds_spanReader chars named outside
  rwa [String.ofList_toList] at found

theorem isSpacing_of_isFieldChar {d : Char} (inside : isFieldChar d = true) :
    isSpacing d = false ∧ d ≠ '(' := by
  constructor
  · exact Bool.eq_false_iff.2 fun spacing => by simp [not_isFieldChar (.inl spacing)] at inside
  · rintro rfl
    exact absurd inside (by decide)

/-- A test in place of an operand. Its field may be a keyword, after which no operand follows. -/
theorem finds_readNot_test {test : FieldTest} (named : IsField field) (nonempty : field ≠ "")
    (padding : Padding b) (sign : IsSign c)
    (h : Finds fieldReader (field.toList ++ (b ++ c :: u)) test rest) :
    Finds (readNot fieldReader) (field.toList ++ (b ++ c :: u)) (.atom test) rest := by
  -- behind a field that is the word for a negation stands a sign, which no operand starts with
  have unread : readNot fieldReader (skip (b ++ c :: u)) = none := by
    rw [skip_append_solid padding (solid_sign sign)]
    have plain : afterKeyword? ['n', 'o', 't'] (c :: u) = none := by
      refine afterKeyword?_eq_none ?_ _ _
      rcases sign with rfl | rfl | rfl <;> decide
    have unopened : (c :: u).head? ≠ some '(' := by
      rcases sign with rfl | rfl | rfl <;> simp
    have unnamed : fieldReader (c :: u) = none := by
      have outside : isFieldChar c = false := by
        rcases sign with rfl | rfl | rfl <;> decide
      simp [fieldReader, spanReader, outside]
    rw [readNot_eq_atom plain unopened, unnamed]
    rfl
  have negation : readNegation fieldReader (field.toList ++ (b ++ c :: u)) = none := by
    rw [readNegation]
    split
    · rfl
    · rename_i r found
      obtain ⟨rfl, -⟩ := eq_of_afterKeyword? (fun d hd => isSpacing_of_isFieldChar (named d hd))
        (fun d hd => (outside_field padding sign d hd).2) found
      rw [unread]
      rfl
  have group : readGroup fieldReader (field.toList ++ (b ++ c :: u)) = none := by
    apply readGroup_eq_none
    cases chars : field.toList with
    | nil => exact absurd (String.toList_eq_nil_iff.1 chars) nonempty
    | cons d cs =>
      have inside := named d (by simp [chars])
      rintro ⟨⟩
      exact absurd inside (by decide)
  obtain ⟨t, read, rfl, left⟩ := h
  refine ⟨t.as (.atom t.value), ?_, rfl, left⟩
  rw [readNot, negation, group, read]
  rfl

theorem finds_fieldReader {test : FieldTest} (named : IsField field) (nonempty : field ≠ "")
    (padding : Padding b) (sign : IsSign c)
    (h : Finds (rangeReader field) (c :: u) test rest ∨
      rangeReader field (c :: u) = none ∧ Finds (matchReader field) (c :: u) test rest) :
    Finds fieldReader (field.toList ++ (b ++ c :: u)) test rest := by
  obtain ⟨⟨name, r, shorter⟩, read, same, left⟩ := finds_field (u := u) named nonempty padding sign
  obtain rfl : field = name := same.symm
  obtain rfl : b ++ c :: u = r := left.symm
  have start : skip (b ++ c :: u) = c :: u := skip_append_solid padding (solid_sign sign)
  unfold Finds
  rw [fieldReader, read]
  dsimp only
  rw [← start] at h
  rcases h with ⟨t, read, same, left⟩ | ⟨none, t, read, same, left⟩
  · rw [read]
    exact ⟨_, rfl, same, left⟩
  · rw [none, read]
    exact ⟨_, rfl, same, left⟩

theorem solid_quote (text : String) (rest : List Char) : Solid (quote text ++ rest) :=
  ⟨'"', _, rfl, by decide⟩

theorem finds_rangeReader (field : String) (operator : RangeOperator) (text : String)
    (padding : Padding b) (rest : List Char) :
    Finds (rangeReader field) (operator.sign ++ (b ++ (quote text ++ rest)))
      (.range field operator (.quoted text)) rest := by
  have unequal : (b ++ (quote text ++ rest)).head? ≠ some '=' := by
    cases b with
    | nil => simp [quote]
    | cons c b =>
      have spacing := padding c List.mem_cons_self
      rintro ⟨⟩
      exact absurd spacing (by decide)
  obtain ⟨sign, readSign, meant, left⟩ := finds_operatorReader operator unequal
  have value : Finds termReader (skip sign.rest) (.quoted text) rest := by
    rw [left, skip_append_solid padding (solid_quote text rest)]
    exact finds_termReader_quote text rest
  obtain ⟨t, read, same, left⟩ := value
  unfold Finds
  rw [rangeReader, readSign]
  dsimp only
  rw [read]
  exact ⟨_, rfl, congrArg₂ (FieldTest.range field) meant same, left⟩

theorem finds_matchReader (field : String) {s : List Char} {c : Clause Term}
    (h : Finds valuesReader s c rest) (solid : Solid s) (padding : Padding b) :
    Finds (matchReader field) (':' :: (b ++ s)) (.values field c) rest := by
  have values : Finds valuesReader (skip (b ++ s)) c rest := by
    rw [skip_append_solid padding solid]
    exact h
  obtain ⟨t, read, same, left⟩ := values
  unfold Finds
  rw [matchReader, read]
  exact ⟨_, rfl, congrArg (FieldTest.values field) same, left⟩

theorem solid_field (named : IsField field) (nonempty : field ≠ "") : Solid field.toList := by
  cases chars : field.toList with
  | nil => exact absurd (String.toList_eq_nil_iff.1 chars) nonempty
  | cons c cs =>
    refine ⟨c, cs, rfl, Bool.eq_false_iff.2 fun spacing => ?_⟩
    have inside := named c (by simp [chars])
    rw [not_isFieldChar (.inl spacing)] at inside
    contradiction

theorem finds_readNot_values (named : IsField field) (nonempty : field ≠ "") {b b' s : List Char}
    (before : Padding b) (after : Padding b') {c : Clause Term} (h : Finds valuesReader s c rest)
    (solid : Solid s) :
    Finds (readNot fieldReader) (field.toList ++ (b ++ ':' :: (b' ++ s))) (.atom (.values field c))
      rest := by
  have matched := finds_matchReader field h solid after
  have tested := finds_fieldReader named nonempty before (.inl rfl) (.inr ⟨rfl, matched⟩)
  exact finds_readNot_test named nonempty before (.inl rfl) tested

theorem finds_readNot_range (named : IsField field) (nonempty : field ≠ "")
    (operator : RangeOperator) (text : String) {b b' : List Char} (before : Padding b)
    (after : Padding b') (rest : List Char) :
    Finds (readNot fieldReader)
      (field.toList ++ (b ++ (operator.sign ++ (b' ++ (quote text ++ rest)))))
      (.atom (.range field operator (.quoted text))) rest := by
  have ranged := finds_rangeReader field operator text after rest
  obtain ⟨c, u, sign, chars⟩ : ∃ c u, IsSign c ∧
      operator.sign ++ (b' ++ (quote text ++ rest)) = c :: u := by
    cases operator with
    | less => exact ⟨_, _, .inr (.inl rfl), rfl⟩
    | lessOrEqual => exact ⟨_, _, .inr (.inl rfl), rfl⟩
    | greater => exact ⟨_, _, .inr (.inr rfl), rfl⟩
    | greaterOrEqual => exact ⟨_, _, .inr (.inr rfl), rfl⟩
  rw [chars] at ranged ⊢
  have tested := finds_fieldReader named nonempty before sign (.inl ranged)
  exact finds_readNot_test named nonempty before sign tested

end tests

end MapLayer.Query
