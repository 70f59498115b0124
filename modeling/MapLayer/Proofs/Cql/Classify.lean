import MapLayer.Proofs.Cql.Runs
import MapLayer.Proofs.Text.Pieces
import MapLayer.Proofs.Text.Upper

/-! What a clause is taken for. Main statements: a relation on a column is spatial exactly if it is one of
the known predicates, and a text without parentheses is not. -/

namespace MapLayer.Cql

open MapLayer.Text

/-- A column name that can be told from what stands around it in a clause. -/
def PlainColumn (column : String) : Prop :=
  Unbracketed column.toList ∧ ',' ∉ column.toList ∧ trim column.toList = column.toList

instance (column : String) : Decidable (PlainColumn column) :=
  inferInstanceAs (Decidable (_ ∧ _ ∧ _))

/-- Marks that are part of no predicate's name. -/
def outsideNames : List Char := ['(', '\'']

theorem not_blank_outside : ∀ c ∈ outsideNames, isBlank c = false := by decide

theorem not_letter_outside : ∀ c ∈ outsideNames,
    c.toLower ≠ 'n' ∧ c.toLower ≠ 'o' ∧ c.toLower ≠ 't' := by decide

theorem spells_outside {name : String} (known : name ∈ spatialPredicates) :
    name ≠ "" ∧ ∀ n ∈ name.toList, ∀ c ∈ outsideNames, spells n c = false := by
  revert name
  decide

/-- What is left of a name's text: it has as many characters as the name, and is the name if they are
raised. -/
theorem append_of_afterName? {name s r : List Char} (h : afterName? name s = some r)
    (closed : ∀ n ∈ name, ∀ c ∈ outsideNames, spells n c = false) :
    ∃ w, s = w ++ r ∧ w.length = name.length ∧ (∀ c ∈ outsideNames, c ∉ w) ∧
      ((∀ c ∈ w, Raised c) → w = name) := by
  fun_induction afterName? name s with
  | case1 s => exact ⟨[], by simpa using h, rfl, fun _ _ => List.not_mem_nil, fun _ => rfl⟩
  | case2 => contradiction
  | case3 n name c s spelled ih =>
    obtain ⟨w, rfl, same, apart, raised⟩ := ih h fun n hn => closed n (List.mem_cons_of_mem _ hn)
    refine ⟨c :: w, rfl, by simp [same], ?_, ?_⟩
    · intro d hd member
      rcases List.mem_cons.1 member with rfl | member
      · rw [closed n List.mem_cons_self d hd] at spelled
        contradiction
      · exact apart d hd member
    · intro all
      rw [(all c List.mem_cons_self).eq_of_spells spelled,
        raised fun c hc => all c (List.mem_cons_of_mem _ hc)]
  | case4 => contradiction

theorem append_of_spatialArguments? {s r : List Char} (h : spatialArguments? s = some r) :
    ∃ w gap, s = w ++ gap ++ '(' :: r ∧ w ≠ [] ∧ (∀ c ∈ outsideNames, c ∉ w) ∧
      (∀ c ∈ gap, isBlank c = true) ∧
      ((∀ c ∈ w, Raised c) → String.ofList w ∈ spatialPredicates) := by
  obtain ⟨name, known, after⟩ := List.exists_of_findSome?_eq_some h
  obtain ⟨named, closed⟩ := spells_outside known
  unfold afterPredicate? at after
  split at after
  · rename_i t e
    obtain rfl := Option.some.inj after
    obtain ⟨u, hu, trimmed⟩ := Option.map_eq_some_iff.1 e
    obtain ⟨w, rfl, same, apart, raised⟩ := append_of_afterName? hu closed
    refine ⟨w, u.takeWhile isBlank, ?_, ?_, apart, ?_, ?_⟩
    · rw [← trimmed, List.append_assoc, trimLeft, List.takeWhile_append_dropWhile]
    · rintro rfl
      exact named (String.toList_eq_nil_iff.1 (List.length_eq_zero_iff.1 same.symm))
    · intro c hc
      exact List.all_eq_true.1 List.all_takeWhile c hc
    · intro all
      rwa [raised all, String.ofList_toList]
  · contradiction

theorem spatialArguments?_unopened {s : List Char} (h : '(' ∉ s) : spatialArguments? s = none := by
  cases found : spatialArguments? s with
  | none => rfl
  | some r =>
    obtain ⟨w, gap, rfl, -⟩ := append_of_spatialArguments? found
    exact absurd (by simp) h

theorem spatialArguments?_paren (s : List Char) : spatialArguments? ('(' :: s) = none := by
  cases found : spatialArguments? ('(' :: s) with
  | none => rfl
  | some r =>
    obtain ⟨w, gap, split, nonempty, apart, -⟩ := append_of_spatialArguments? found
    cases w with
    | nil => contradiction
    | cons c w =>
      exact absurd ((List.cons.inj split).1 ▸ List.mem_cons_self) (apart '(' (by decide))

theorem spatialArguments?_quoted {front : List Char} (unopened : '(' ∉ front) (rest : List Char) :
    spatialArguments? (front ++ '\'' :: rest) = none := by
  cases found : spatialArguments? (front ++ '\'' :: rest) with
  | none => rfl
  | some r =>
    obtain ⟨w, gap, split, -, apart, blank, -⟩ := append_of_spatialArguments? found
    have outside (c : Char) (hc : c ∈ outsideNames) : c ∉ w ++ gap := by
      intro member
      rcases List.mem_append.1 member with member | member
      · exact apart c hc member
      · exact absurd (blank c member) (by simp [not_blank_outside c hc])
    have inside : ∀ c ∈ front, (c != '(') = true := by
      intro c hc
      exact bne_iff_ne.2 fun e => unopened (e ▸ hc)
    have before : w ++ gap = front ++ '\'' :: rest.takeWhile (· != '(') := by
      rw [← takeWhile_ne_append (outside '(' (by decide)) r, ← split,
        List.takeWhile_append_of_pos inside]
      rfl
    exact absurd (before ▸ by simp) (outside '\'' (by decide))

theorem spatialArguments?_known {relation : String} (known : relation ∈ spatialPredicates)
    (rest : List Char) : spatialArguments? (relation.toList ++ '(' :: rest) = some rest := by
  simp only [spatialPredicates, List.mem_cons, List.not_mem_nil, or_false] at known
  rcases known with rfl | rfl | rfl | rfl | rfl <;> rfl

/-- A word that neither white space nor a parenthesis is part of. -/
def Solid (word : List Char) : Prop := ∀ c ∈ word, isBlank c = false ∧ c ≠ '('

instance (word : List Char) : Decidable (Solid word) :=
  inferInstanceAs (Decidable (∀ c ∈ word, isBlank c = false ∧ c ≠ '('))

/-- A raised word right before a parenthesis is taken for a predicate only if it is one. -/
theorem known_of_spatialArguments? {relation rest r : List Char}
    (raised : ∀ c ∈ relation, Raised c) (solid : Solid relation)
    (found : spatialArguments? (relation ++ '(' :: rest) = some r) :
    String.ofList relation ∈ spatialPredicates := by
  obtain ⟨w, gap, split, -, apart, blank, known⟩ := append_of_spatialArguments? found
  have outside : '(' ∉ w ++ gap := by
    intro member
    rcases List.mem_append.1 member with member | member
    · exact apart '(' (by decide) member
    · exact absurd (blank _ member) (by decide)
  have same : relation = w ++ gap := by
    rw [← takeWhile_ne_append (fun member => (solid _ member).2 rfl) rest, split,
      takeWhile_ne_append outside]
  have none : gap = [] := by
    apply List.eq_nil_iff_forall_not_mem.2
    intro c hc
    have := (solid c (same ▸ List.mem_append_right w hc)).1
    rw [blank c hc] at this
    contradiction
  subst same none
  rw [List.append_nil] at raised ⊢
  exact known raised

/-- What a clause holds between its own parentheses: a relation and what stands in its parentheses. -/
def clauseBody (negate : Bool) (relation arguments : List Char) : List Char :=
  (if negate then ['N', 'O', 'T', ' '] else []) ++ relation ++ '(' :: arguments ++ [')']

def clauseText (negate : Bool) (relation arguments : List Char) : List Char :=
  '(' :: (clauseBody negate relation arguments ++ [')'])

theorem enclosed_clauseText (negate : Bool) {relation arguments : List Char}
    (plain : Unbracketed relation) (balanced : Balanced arguments) :
    Enclosed (clauseText negate relation arguments) := by
  have word : Unbracketed (if negate then ['N', 'O', 'T', ' '] else []) := by
    cases negate <;> decide
  refine ⟨_, ?_, rfl⟩
  have whole := (word.append plain).balanced.append balanced.enclosed
  simpa [clauseBody] using whole

theorem body_clauseText (negate : Bool) {relation : List Char} (solid : Solid relation)
    (arguments : List Char) :
    body (clauseText negate relation arguments) = clauseBody negate relation arguments := by
  have inner : (clauseText negate relation arguments).tail.dropLast
      = clauseBody negate relation arguments := by
    rw [clauseText, List.tail_cons, List.dropLast_concat]
  rw [body, inner, clauseBody]
  refine trim_concat ?_ (by decide)
  intro c hc
  cases negate with
  | true =>
    obtain rfl : 'N' = c := by simpa using hc
    decide
  | false =>
    cases relation with
    | nil =>
      obtain rfl : '(' = c := by simpa using hc
      decide
    | cons d relation =>
      obtain rfl : d = c := by simpa using hc
      exact (solid d List.mem_cons_self).1

theorem trimLeft_solid {relation : List Char} (solid : Solid relation) (rest : List Char) :
    trimLeft isBlank (relation ++ '(' :: rest) = relation ++ '(' :: rest := by
  cases relation with
  | nil => exact List.dropWhile_cons_of_neg (by decide)
  | cons c relation => exact List.dropWhile_cons_of_neg (by simp [(solid c List.mem_cons_self).1])

theorem afterNot?_negated {relation : List Char} (solid : Solid relation) (rest : List Char) :
    afterNot? ('N' :: 'O' :: 'T' :: ' ' :: (relation ++ '(' :: rest))
      = some (relation ++ '(' :: rest) := by
  rw [afterNot?, if_pos (by decide)]
  exact congrArg some ((List.dropWhile_cons_of_pos (by decide)).trans (trimLeft_solid solid rest))

theorem afterNot?_eq_some {s r : List Char} (found : afterNot? s = some r) :
    ∃ n o t c rest, s = n :: o :: t :: c :: rest ∧ (∀ d ∈ outsideNames, d ∉ [n, o, t]) ∧
      (isBlank c = true ∨ c = '(') ∧ r = trimLeft isBlank (c :: rest) := by
  unfold afterNot? at found
  split at found
  · rename_i n o t c rest
    split at found
    · rename_i word
      obtain ⟨hn, ho, ht, hc⟩ := word
      refine ⟨n, o, t, c, rest, rfl, ?_, by simpa using hc, (Option.some.inj found).symm⟩
      intro d outside member
      obtain ⟨hn', ho', ht'⟩ := not_letter_outside d outside
      simp only [List.mem_cons, List.not_mem_nil, or_false] at member
      rcases member with rfl | rfl | rfl
      · exact hn' hn
      · exact ho' ho
      · exact ht' ht
    · contradiction
  · contradiction

/-- What is taken for the word `not` in front of a relation is the relation itself. -/
theorem afterNot?_solid {relation rest r : List Char} (solid : Solid relation)
    (found : afterNot? (relation ++ '(' :: rest) = some r) : r = '(' :: rest := by
  obtain ⟨n, o, t, c, tail, split, word, hc, rfl⟩ := afterNot?_eq_some found
  have word := word '(' (by decide)
  match relation, solid, split with
  | [], _, split => exact absurd (by simp [(List.cons.inj split).1.symm]) word
  | [_], _, split =>
    simp only [List.cons_append, List.nil_append, List.cons.injEq] at split
    exact absurd (by simp [split.2.1.symm]) word
  | [_, _], _, split =>
    simp only [List.cons_append, List.nil_append, List.cons.injEq] at split
    exact absurd (by simp [split.2.2.1.symm]) word
  | [_, _, _], _, split =>
    simp only [List.cons_append, List.nil_append, List.cons.injEq] at split
    obtain ⟨-, -, -, rfl, rfl⟩ := split
    exact List.dropWhile_cons_of_neg (by decide)
  | _ :: _ :: _ :: d :: _, solid, split =>
    simp only [List.cons_append, List.cons.injEq] at split
    obtain ⟨-, -, -, rfl, -⟩ := split
    obtain ⟨notBlank, notParen⟩ := solid d (by simp)
    rcases hc with blank | paren
    · rw [notBlank] at blank
      contradiction
    · exact absurd paren notParen

theorem known_solid {relation : String} (known : relation ∈ spatialPredicates) :
    Solid relation.toList := by
  revert relation
  decide

theorem afterNot?_known {relation : String} (known : relation ∈ spatialPredicates)
    (rest : List Char) : afterNot? (relation.toList ++ '(' :: rest) = none := by
  simp only [spatialPredicates, List.mem_cons, List.not_mem_nil, or_false] at known
  rcases known with rfl | rfl | rfl | rfl | rfl <;> rfl

/-- A clause with a known relation on a column is taken for what it is. -/
theorem classify_clauseText {relation column : String} (negate : Bool)
    (known : relation ∈ spatialPredicates) (plain : PlainColumn column) (rest : List Char) :
    classify (clauseText negate relation.toList (column.toList ++ ',' :: rest))
      = .spatial (String.ofList (clauseText negate relation.toList (column.toList ++ ',' :: rest)))
          column negate := by
  obtain ⟨-, comma, trimmed⟩ := plain
  have solid := known_solid known
  have key : String.ofList (trim ((column.toList ++ ',' :: rest ++ [')']).takeWhile (· != ',')))
      = column := by
    rw [List.append_assoc, List.cons_append, takeWhile_ne_append comma, trimmed,
      String.ofList_toList]
  have inner := body_clauseText negate solid (column.toList ++ ',' :: rest)
  rw [classify, inner]
  cases negate with
  | true =>
    simp only [clauseBody, if_pos, List.cons_append, List.nil_append, List.append_assoc,
      afterNot?_negated solid, spatialArguments?_known known]
    simp only [List.append_assoc, List.cons_append] at key
    rw [key]
  | false =>
    simp only [clauseBody, Bool.false_eq_true, if_false, List.cons_append, List.nil_append,
      List.append_assoc, afterNot?_known known, spatialArguments?_known known]
    simp only [List.append_assoc, List.cons_append] at key
    rw [key]

theorem classify_cql (run : List Char) : (classify run).cql = String.ofList run := by
  rw [classify]
  cases afterNot? (body run) with
  | none => cases h : spatialArguments? (body run) <;> simp [h, CqlFragment.spatial]
  | some rest => cases h : spatialArguments? rest <;> simp [h, CqlFragment.spatial]

/-- A clause is spatial if a predicate stands at its front, behind the word `not` if there is one. -/
theorem isSpatial_classify (run : List Char) : (classify run).isSpatial
    = (spatialArguments? ((afterNot? (body run)).getD (body run))).isSome := by
  rw [classify]
  cases afterNot? (body run) with
  | none => cases h : spatialArguments? (body run) <;> simp [h, CqlFragment.spatial]
  | some rest => cases h : spatialArguments? rest <;> simp [h, CqlFragment.spatial]

theorem fieldKey_classify {run : List Char} (plain : (classify run).isSpatial = false) :
    (classify run).fieldKey = "" := by
  rw [isSpatial_classify, Option.isSome_eq_false_iff, Option.isNone_iff_eq_none] at plain
  rw [classify]
  cases found : afterNot? (body run) with
  | none => simp_all
  | some rest => simp_all

theorem isSpatial_clauseText {relation : List Char} (negate : Bool)
    (raised : ∀ c ∈ relation, Raised c) (solid : Solid relation)
    (unknown : String.ofList relation ∉ spatialPredicates) (arguments : List Char) :
    (classify (clauseText negate relation arguments)).isSpatial = false := by
  have other (rest : List Char) : spatialArguments? (relation ++ '(' :: rest) = none :=
    Option.eq_none_iff_forall_ne_some.2 fun _ found =>
      unknown (known_of_spatialArguments? raised solid found)
  rw [isSpatial_classify, body_clauseText negate solid arguments]
  cases negate with
  | true =>
    simp only [clauseBody, if_pos, List.cons_append, List.nil_append, List.append_assoc,
      afterNot?_negated solid, Option.getD_some, other, Option.isSome_none]
  | false =>
    simp only [clauseBody, Bool.false_eq_true, if_false, List.cons_append, List.nil_append,
      List.append_assoc]
    cases found : afterNot? (relation ++ '(' :: (arguments ++ [')'])) with
    | none => rw [Option.getD_none, other, Option.isSome_none]
    | some rest =>
      rw [afterNot?_solid solid found, Option.getD_some, spatialArguments?_paren,
        Option.isSome_none]

theorem body_wrapped (s : List Char) : body ('(' :: (s ++ [')'])) = trim s := by
  rw [body, List.tail_cons, List.dropLast_concat]

theorem isSpatial_unopened {s : List Char} (unopened : '(' ∉ s) :
    (classify ('(' :: (s ++ [')']))).isSpatial = false := by
  have inner : '(' ∉ body ('(' :: (s ++ [')'])) := by
    rw [body_wrapped]
    exact fun member => unopened (mem_of_mem_trim member)
  rw [isSpatial_classify]
  cases found : afterNot? (body ('(' :: (s ++ [')']))) with
  | none => rw [Option.getD_none, spatialArguments?_unopened inner, Option.isSome_none]
  | some rest =>
    obtain ⟨n, o, t, c, tail, split, -, -, rfl⟩ := afterNot?_eq_some found
    have behind : '(' ∉ trimLeft isBlank (c :: tail) := by
      intro member
      have := (List.dropWhile_sublist isBlank).subset member
      exact inner (split ▸ by simp [this])
    rw [Option.getD_some, spatialArguments?_unopened behind, Option.isSome_none]

theorem isSpatial_quoted {front : List Char} (unopened : '(' ∉ front) (rest : List Char) :
    (classify ('(' :: (front ++ '\'' :: rest ++ [')']))).isSpatial = false := by
  have inner := trim_append_cons front rest (d := '\'') (by decide)
  have start : '(' ∉ trimLeft isBlank front := fun member =>
    unopened ((List.dropWhile_sublist isBlank).subset member)
  rw [isSpatial_classify, body_wrapped, inner]
  cases found : afterNot? (trimLeft isBlank front ++ '\'' :: trimRight isBlank rest) with
  | none => rw [Option.getD_none, spatialArguments?_quoted start, Option.isSome_none]
  | some t =>
    obtain ⟨n, o, t, c, tail, split, word, -, rfl⟩ := afterNot?_eq_some found
    have behind : ∃ middle, '(' ∉ middle ∧ c :: tail = middle ++ '\'' :: trimRight isBlank rest := by
      have split : _ ++ '\'' :: trimRight isBlank rest = [n, o, t] ++ c :: tail := split
      rcases List.append_eq_append_iff.1 split with
        ⟨middle, front, behind⟩ | ⟨middle, front, behind⟩
      · cases middle with
        | nil => exact ⟨[], List.not_mem_nil, by simpa using behind.symm⟩
        | cons d middle =>
          obtain rfl : '\'' = d := (List.cons.inj behind).1
          exact absurd (by simp [front]) (word '\'' (by decide))
      · exact ⟨middle, fun member => start (front ▸ List.mem_append_right _ member), behind⟩
    obtain ⟨middle, outside, behind⟩ := behind
    have trimmed : '(' ∉ trimLeft isBlank middle := fun member =>
      outside ((List.dropWhile_sublist isBlank).subset member)
    rw [Option.getD_some, behind, trimLeft_append_cons _ _ (by decide),
      spatialArguments?_quoted trimmed, Option.isSome_none]

end MapLayer.Cql
