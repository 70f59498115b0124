import MapLayer.Filter.Cql
import MapLayer.Proofs.Geometry.Wkt
import MapLayer.Proofs.Query.Reading

/-! Queries that are given as no texts. Main statements: the text of a JSON value other than a text is no query,
so that equal queries have equal clauses although equal numbers may be written differently. -/

namespace MapLayer

open MapLayer.Text MapLayer.Clause

namespace Decimal

/-- The characters of JSON numbers and of the names of JSON values. -/
def isScalarChar (c : Char) : Bool :=
  isFigure c || ['+', 'e', 'l', 'r', 's', 't', 'u'].contains c

theorem isScalarChar_of_isFigure {c : Char} (h : isFigure c = true) : isScalarChar c = true := by
  rw [isScalarChar, h, Bool.true_or]

theorem isScalarChar_digitsOf {n : Nat} {c : Char} (h : c ∈ digitsOf n) : isScalarChar c = true :=
  isScalarChar_of_isFigure (isFigure_digitsOf h)

theorem isScalarChar_scientific {n : Nat} {e : Int} {c : Char}
    (h : c ∈ scientific (digitsOf n) e) : isScalarChar c = true := by
  rcases List.mem_append.1 h with h | h
  · split at h
    · rename_i d e rest digits
      have figure (hc : c ∈ d :: e :: rest) : isScalarChar c = true :=
        isScalarChar_digitsOf (digits ▸ hc)
      simp only [List.mem_cons] at h figure
      rcases h with rfl | rfl | rest
      · exact figure (.inl rfl)
      · decide
      · exact figure (.inr rest)
    · exact isScalarChar_digitsOf h
  · simp only [List.mem_cons] at h
    rcases h with rfl | rfl | h
    · decide
    · split <;> decide
    · exact isScalarChar_digitsOf h

theorem isScalarChar_magnitude {x : Binary} {c : Char} (h : c ∈ Layout.json.magnitude x) :
    isScalarChar c = true := by
  simp only [Layout.magnitude] at h
  split at h
  · exact isScalarChar_of_isFigure (isFigure_withPoint (by decide) (fun _ => isFigure_digitsOf) _ h)
  · exact isScalarChar_scientific h

theorem isScalarChar_integer {n : Int} {c : Char} (h : c ∈ integer n) : isScalarChar c = true := by
  unfold integer at h
  split at h
  · rcases List.mem_cons.1 h with rfl | h
    · decide
    · exact isScalarChar_digitsOf h
  · exact isScalarChar_digitsOf h

theorem integer_ne_nil (n : Int) : integer n ≠ [] := by
  unfold integer
  split
  · exact List.cons_ne_nil _ _
  · exact Nat.toDigits_ne_nil

theorem isScalarChar_numberText {x : Float} {c : Char} (h : c ∈ Json.numberText x) :
    isScalarChar c = true := by
  unfold Json.numberText at h
  split at h
  · rcases mem_text h with figure | h
    · exact isScalarChar_of_isFigure figure
    · exact isScalarChar_magnitude h
  · revert c
    decide

theorem numberText_ne_nil (x : Float) : Json.numberText x ≠ [] := by
  unfold Json.numberText
  split
  · exact Layout.json.text_ne_nil x
  · exact List.cons_ne_nil _ _

end Decimal

namespace Query

open Decimal

theorem of_isScalarChar {c : Char} (h : isScalarChar c = true) :
    (isFieldChar c = true ∨ c = '+') ∧ isBlank c = false ∧ c ≠ '(' := by
  simp only [isScalarChar, isFigure, Bool.or_eq_true, List.contains_eq_mem, decide_eq_true_eq,
    List.mem_cons, List.not_mem_nil, or_false, or_assoc] at h
  rcases h with digit | h
  · have bounds := digit
    simp only [Char.isDigit, Bool.and_eq_true, decide_eq_true_eq, UInt32.le_iff_toNat_le,
      ge_iff_le] at bounds
    have value : c.toNat = c.val.toNat := rfl
    have zero : '0'.val.toNat = 48 := rfl
    have nine : '9'.val.toNat = 57 := rfl
    have small : c.toNat < 0x80 := by omega
    refine ⟨.inl (by simp [isFieldChar, isAlphanumeric, small, Char.isAlphanum, digit]), ?_, ?_⟩
    · simp only [isBlank, Bool.or_eq_false_iff, Bool.and_eq_false_iff, decide_eq_false_iff_not,
        beq_eq_false_iff_ne]
      omega
    · rintro rfl
      contradiction
  · rcases h with rfl | rfl | rfl | rfl | rfl | rfl | rfl | rfl | rfl | rfl | rfl | rfl | rfl | rfl
    all_goals decide

theorem fieldReader_eq_none_of_head {c : Char} {s : List Char} (other : isFieldChar c = false) :
    fieldReader (c :: s) = none := by
  simp [fieldReader, spanReader, other]

theorem fieldReader_eq_none {s : List Char} (scalar : ∀ c ∈ s, isScalarChar c = true) :
    fieldReader s = none := by
  cases s with
  | nil => rfl
  | cons c s =>
    cases named : isFieldChar c with
    | false => exact fieldReader_eq_none_of_head named
    | true =>
      have behind : s.dropWhile isFieldChar = [] ∨ ∃ t, s.dropWhile isFieldChar = '+' :: t := by
        cases rest : s.dropWhile isFieldChar with
        | nil => exact .inl rfl
        | cons d t =>
          have other := List.head?_dropWhile_not isFieldChar s
          have member : d ∈ s :=
            (List.dropWhile_sublist isFieldChar).subset (rest ▸ List.mem_cons_self)
          have plus := (of_isScalarChar (scalar d (List.mem_cons_of_mem _ member))).1
          rw [rest] at other
          simp only [List.head?_cons] at other
          rw [other] at plus
          exact .inr ⟨t, by rw [plus.resolve_left (by decide)]⟩
      have range (field : String) : rangeReader field (skip (s.dropWhile isFieldChar)) = none := by
        rcases behind with none | ⟨t, plus⟩
        · rw [none]
          rfl
        · rw [plus]
          rfl
      have test (field : String) : matchReader field (skip (s.dropWhile isFieldChar)) = none := by
        rcases behind with none | ⟨t, plus⟩
        · rw [none]
          rfl
        · rw [plus]
          rfl
      simp only [fieldReader, spanReader, named, if_true]
      rw [range, test]
      rfl

/-- A text that tests no field at its front, and does not start a combination, is no query. -/
theorem parse_ne_ok {text : String} {c : Char} {s : List Char} (chars : text.toList = c :: s)
    (solid : isBlank c = false) (unopened : c ≠ '(')
    (plain : afterKeyword? ['n', 'o', 't'] (c :: s) = none) (untested : fieldReader (c :: s) = none)
    (read : Option QueryNode) : parse text ≠ .ok read := by
  have filled : trim (c :: s) ≠ [] := fun none =>
    absurd (isBlank_of_trim_eq_nil none c List.mem_cons_self) (by simp [solid])
  have start : skip (c :: s) = c :: s := by
    refine List.dropWhile_cons_of_neg fun spacing => ?_
    rw [isBlank_of_isSpacing spacing] at solid
    contradiction
  have unread : ∀ t, t = c :: s → readOr fieldReader t = none := by
    rintro _ rfl
    exact readOr_eq_none plain (by simpa using unopened) untested
  have none : read? (c :: s) = none := by
    rw [read?, unread _ start]
  rw [parse, chars, if_neg filled, none]
  intro found
  cases found

theorem parse_scalar_ne_ok {s : List Char} (nonempty : s ≠ [])
    (scalar : ∀ c ∈ s, isScalarChar c = true) (read : Option QueryNode) :
    parse (String.ofList s) ≠ .ok read := by
  cases s with
  | nil => contradiction
  | cons c s =>
    obtain ⟨-, solid, unopened⟩ := of_isScalarChar (scalar c List.mem_cons_self)
    refine parse_ne_ok String.toList_ofList solid unopened ?_ (fieldReader_eq_none scalar) read
    apply Option.eq_none_iff_forall_ne_some.2
    intro r found
    obtain ⟨w, d, t, split, -, ends⟩ := append_of_afterKeyword? found
    obtain ⟨-, solid, unopened⟩ := of_isScalarChar (scalar d (split ▸ by simp))
    rcases ends with spacing | paren
    · rw [isBlank_of_isSpacing spacing] at solid
      contradiction
    · exact unopened paren

theorem parse_bracket_ne_ok {c : Char} (bracket : c = '[' ∨ c = '\x7b') (s : List Char)
    (read : Option QueryNode) : parse (String.ofList (c :: s)) ≠ .ok read := by
  have facts : isBlank c = false ∧ c ≠ '(' ∧ isFieldChar c = false ∧ c.toLower ≠ 'n' := by
    rcases bracket with rfl | rfl <;> decide
  obtain ⟨solid, unopened, unnamed, other⟩ := facts
  refine parse_ne_ok String.toList_ofList solid unopened ?_ (fieldReader_eq_none_of_head unnamed) read
  apply Option.eq_none_iff_forall_ne_some.2
  intro r found
  obtain ⟨w, d, t, split, word, -⟩ := append_of_afterKeyword? found
  cases w with
  | nil => cases word
  | cons e w =>
    rw [(List.cons.inj split).1] at other
    exact other (List.cons.inj word).1

/-- The text of a JSON value other than a text is no query. -/
theorem parse_json_ne_ok {v : Json} (other : v.string? = none) (read : Option QueryNode) :
    parse v.text ≠ .ok read := by
  cases v with
  | null => exact parse_scalar_ne_ok (by decide) (by decide) read
  | bool b => cases b <;> exact parse_scalar_ne_ok (by decide) (by decide) read
  | string s => cases other
  | array items => exact parse_bracket_ne_ok (.inl rfl) _ read
  | object members => exact parse_bracket_ne_ok (.inr rfl) _ read
  | int n => exact parse_scalar_ne_ok (integer_ne_nil n) (fun _ => isScalarChar_integer) read
  | float x =>
    exact parse_scalar_ne_ok (numberText_ne_nil x) (fun _ => isScalarChar_numberText) read

end Query

namespace SourceQuery

variable {p q : SourceQuery} {f g : Option CqlFragment}

/-- Equal queries have equal clauses, if they have any. -/
theorem fragment_eq_of_beq (same : (p == q) = true) (hp : p.fragment = .ok f)
    (hq : q.fragment = .ok g) : f = g := by
  obtain ⟨queries, languages⟩ := Bool.and_eq_true_iff.1 same
  have language : p.language = q.language := beq_iff_eq.1 languages
  unfold fragment at hp hq
  rw [← language] at hq
  split at hp
  · rename_i known
    rw [if_pos known] at hq
    obtain ⟨read, parsed, -⟩ := Outcome.bind_eq_ok.1 hp
    have texts : p.text = q.text := by
      unfold text at parsed ⊢
      cases written : p.query with
      | string s => 
        cases again : q.query with
        | string t => 
          rw [written, again] at queries
          exact beq_iff_eq.1 queries
        | _ => rw [written, again] at queries; cases queries
      | _ =>
        rw [written] at parsed
        exact absurd parsed (Query.parse_json_ne_ok rfl read)
    rw [texts] at hp
    exact Except.ok.inj (hp.symm.trans hq)
  · rename_i unknown
    rw [if_neg unknown] at hq
    cases hp
    cases hq
    rfl

end SourceQuery

end MapLayer
