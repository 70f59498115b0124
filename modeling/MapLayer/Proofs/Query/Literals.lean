import MapLayer.Proofs.Query.Cql
import MapLayer.Proofs.Query.Written

/-! The literals in the filter texts of queries, where a quote inside a literal is written twice. Main
statement: they are the values of the query, in their order, exactly if no value holds a quote. -/

namespace MapLayer

namespace Cql

/-- A text with nothing between its quotes, and what stood there. -/
structure Outlined where
  outline : List Char
  literals : List (List Char)

namespace Outlined

def cons (c : Char) (r : Outlined) : Outlined := { r with outline := c :: r.outline }

/-- A literal in front, whose opening quote belongs to the outline already. -/
def close (literal : List Char) (r : Outlined) : Outlined :=
  ⟨'\'' :: r.outline, literal :: r.literals⟩

def append (l r : Outlined) : Outlined := ⟨l.outline ++ r.outline, l.literals ++ r.literals⟩

end Outlined

/-- Takes a text apart at its literals, given what has been read of an open literal, backwards. A literal
left open is none. -/
def outlineFrom : (inside : Option (List Char)) → List Char → Option Outlined
  | none, [] => some ⟨[], []⟩
  | some _, [] => none
  | none, c :: s => (outlineFrom (if c = '\'' then some [] else none) s).map (.cons c)
  | some taken, '\'' :: '\'' :: s => outlineFrom (some ('\'' :: taken)) s
  | some taken, c :: s =>
    if c = '\'' then (outlineFrom none s).map (.close taken.reverse)
    else outlineFrom (some (c :: taken)) s

def outline? (s : List Char) : Option Outlined := outlineFrom none s

theorem outlineFrom_plain {s : List Char} (plain : '\'' ∉ s) (rest : List Char) :
    outlineFrom none (s ++ rest) = (outlineFrom none rest).map (.append ⟨s, []⟩) := by
  induction s with
  | nil =>
    have same : Outlined.append ⟨[], []⟩ = id := rfl
    rw [List.nil_append, same, Option.map_id_apply]
  | cons c s ih =>
    have other : c ≠ '\'' := fun e => plain (e ▸ List.mem_cons_self)
    rw [List.cons_append, outlineFrom, if_neg other,
      ih fun member => plain (List.mem_cons_of_mem _ member), Option.map_map]
    rfl

/-- Inside a literal the scanner goes on to the first quote that no other follows. -/
theorem outlineFrom_literal {v rest : List Char} (plain : '\'' ∉ v)
    (away : rest.head? ≠ some '\'') (taken : List Char) :
    outlineFrom (some taken) (v ++ '\'' :: rest)
      = (outlineFrom none rest).map (.close (taken.reverse ++ v)) := by
  induction v generalizing taken with
  | nil =>
    cases rest with
    | nil => simp [outlineFrom]
    | cons d rest =>
      have other : d ≠ '\'' := fun e => away (e ▸ rfl)
      simp [outlineFrom, other]
  | cons c v ih =>
    have other : c ≠ '\'' := fun e => plain (e ▸ List.mem_cons_self)
    have step := ih (fun member => plain (List.mem_cons_of_mem _ member)) (c :: taken)
    simp only [List.cons_append]
    rw [outlineFrom]
    · rw [if_neg other, step, List.reverse_cons, List.append_assoc, List.singleton_append]
    · simp [other]

/-- A text that is taken apart in the same way whatever follows, unless that is a quote. -/
def Reads (s outline : List Char) (literals : List (List Char)) : Prop :=
  ∀ rest : List Char, rest.head? ≠ some '\'' →
    outlineFrom none (s ++ rest) = (outlineFrom none rest).map (.append ⟨outline, literals⟩)

namespace Reads

variable {s t o p : List Char} {l m : List (List Char)}

theorem outline? (reads : Reads s o l) : outline? s = some ⟨o, l⟩ := by
  have whole := reads [] nofun
  simpa [Cql.outline?, outlineFrom, Outlined.append] using whole

theorem of_plain (plain : '\'' ∉ s) : Reads s s [] := fun rest _ => outlineFrom_plain plain rest

theorem literal {front v : List Char} (hf : '\'' ∉ front) (hv : '\'' ∉ v) :
    Reads (front ++ '\'' :: (v ++ ['\''])) (front ++ ['\'', '\'']) [v] := by
  intro rest away
  have inside := outlineFrom_literal hv away []
  rw [List.append_assoc, outlineFrom_plain hf, List.cons_append, outlineFrom, if_pos rfl,
    List.append_assoc, List.singleton_append, inside, Option.map_map, Option.map_map]
  congr 1
  funext r
  simp [Outlined.append, Outlined.cons, Outlined.close]

theorem append (hs : Reads s o l) (ht : Reads t p m) (away : t.head? ≠ some '\'') :
    Reads (s ++ t) (o ++ p) (l ++ m) := by
  intro rest ha
  have clear : (t ++ rest).head? ≠ some '\'' := by
    cases t with
    | nil => exact ha
    | cons c t => exact away
  rw [List.append_assoc, hs _ clear, ht rest ha, Option.map_map]
  congr 1
  funext r
  simp [Outlined.append]

theorem behind (front : List Char) (plain : '\'' ∉ front) (ht : Reads t p m) :
    Reads (front ++ t) (front ++ p) m := by
  intro rest ha
  rw [List.append_assoc, outlineFrom_plain plain, ht rest ha, Option.map_map]
  congr 1
  funext r
  simp [Outlined.append]

end Reads

/-- How many quotes have been passed over when a literal is open. -/
def openQuotes : Option (List Char) → Nat
  | none => 0
  | some taken => 2 * taken.count '\'' + 1

/-- Two quotes stand around each literal, and two for each quote in it. -/
theorem count_outlineFrom {inside : Option (List Char)} {s : List Char} {r : Outlined}
    (h : outlineFrom inside s = some r) : openQuotes inside + s.count '\''
      = 2 * r.literals.length + 2 * r.literals.flatten.count '\'' := by
  fun_induction outlineFrom inside s generalizing r with
  | case1 =>
    cases h
    rfl
  | case2 => cases h
  | case3 c s ih =>
    obtain ⟨rest, hr, rfl⟩ := Option.map_eq_some_iff.1 h
    have counted := ih hr
    by_cases quote : c = '\''
    · subst quote
      simp [openQuotes, Outlined.cons] at counted ⊢
      omega
    · simp_all [openQuotes, Outlined.cons]
  | case4 taken s ih =>
    have counted := ih h
    simp [openQuotes] at counted ⊢
    omega
  | case5 taken s _ ih =>
    obtain ⟨rest, hr, rfl⟩ := Option.map_eq_some_iff.1 h
    have counted := ih hr
    simp [openQuotes, Outlined.close] at counted ⊢
    omega
  | case6 taken c s _ other ih =>
    have counted := ih h
    simp_all [openQuotes]

end Cql

open MapLayer.Cql

namespace QueryNode

theorem IsPlain.unquoted {s : List Char} (plain : IsPlain s) : '\'' ∉ s :=
  fun member => (plain _ member).2.2 rfl

theorem unquoted_mark {name mark : String} (listed : (name, mark) ∈ junctions) :
    '\'' ∉ mark.toList ∧ mark.toList ≠ [] := by
  simp only [junctions, List.mem_cons, Prod.mk.injEq, List.not_mem_nil, or_false] at listed
  rcases listed with ⟨-, rfl⟩ | ⟨-, rfl⟩ <;> decide

theorem reads_intercalate {mark : List Char} (plain : '\'' ∉ mark) (first : mark ≠ [])
    {operands : List (QueryNode × List Char × List Char)}
    (each : ∀ p ∈ operands, Reads p.2.1 p.2.2 (p.1.values.map content)) :
    Reads (mark.intercalate (operands.map (·.2.1))) (mark.intercalate (operands.map (·.2.2)))
      (((operands.map (·.1)).flatMap values).map content) := by
  induction operands with
  | nil => exact Reads.of_plain (by simp)
  | cons p operands ih =>
    have head := each p List.mem_cons_self
    have tail := ih fun q hq => each q (List.mem_cons_of_mem _ hq)
    cases operands with
    | nil => simpa using head
    | cons q operands =>
      simp only [List.map_cons, List.intercalate_cons_cons, List.append_assoc, List.flatMap_cons,
        List.map_append] at tail ⊢
      refine head.append (tail.behind mark plain) ?_
      cases mark with
      | nil => contradiction
      | cons c mark => exact fun e => plain (by simp_all)

theorem Written.reads {node : QueryNode} {s o : List Char} (written : Written node s o)
    (calm : ∀ v ∈ node.values, '\'' ∉ v.content) : Reads s o (node.values.map content) := by
  induction written with
  | named none plain =>
    rw [none]
    exact Reads.of_plain plain.unquoted
  | compared one _ plain =>
    rw [one]
    exact Reads.literal plain.unquoted (calm _ (by simp [one]))
  | negated _ ih =>
    rw [values_not] at calm ⊢
    have closing : Reads [')'] [')'] [] := Reads.of_plain (by decide)
    have whole := ((ih calm).append closing (by decide)).behind "NOT (".toList (by decide)
    simpa [clauseBody] using whole
  | @joined name mark listed operands _ ih =>
    rw [values_joined listed] at calm ⊢
    obtain ⟨plain, first⟩ := unquoted_mark listed
    have inner := reads_intercalate plain first fun p hp => ih p hp fun v hv =>
      calm v (List.mem_flatMap.2 ⟨p.1, List.mem_map_of_mem hp, hv⟩)
    have closing : Reads [')'] [')'] [] := Reads.of_plain (by decide)
    have whole := (inner.append closing (by decide)).behind ['('] (by decide)
    simpa [clauseBody] using whole

theorem count_intercalate {mark : List Char} (plain : '\'' ∉ mark)
    {operands : List (QueryNode × List Char × List Char)}
    (each : ∀ p ∈ operands, p.2.1.count '\''
      = 2 * p.1.values.length + (p.1.values.map content).flatten.count '\'') :
    (mark.intercalate (operands.map (·.2.1))).count '\''
      = 2 * ((operands.map (·.1)).flatMap values).length
        + (((operands.map (·.1)).flatMap values).map content).flatten.count '\'' := by
  induction operands with
  | nil => rfl
  | cons p operands ih =>
    have first := each p List.mem_cons_self
    have others := ih fun q hq => each q (List.mem_cons_of_mem _ hq)
    cases operands with
    | nil => simpa using first
    | cons q operands =>
      have none := List.count_eq_zero.2 plain
      simp only [List.map_cons, List.intercalate_cons_cons, List.count_append, none,
        List.flatMap_cons, List.map_append, List.flatten_append, List.length_append] at others ⊢
      omega

/-- The quotes in a filter text are those around its values and those in them. -/
theorem Written.count_quotes {node : QueryNode} {s o : List Char} (written : Written node s o) :
    s.count '\'' = 2 * node.values.length + (node.values.map content).flatten.count '\'' := by
  induction written with
  | named none plain => simp [none, List.count_eq_zero.2 plain.unquoted]
  | compared one _ plain =>
    simp [one, List.count_eq_zero.2 plain.unquoted]
    omega
  | negated _ ih =>
    rw [values_not, ← ih]
    simp [clauseBody]
  | @joined name mark listed operands _ ih =>
    rw [values_joined listed]
    simp [clauseBody, count_intercalate (unquoted_mark listed).1 ih]

end QueryNode

open QueryNode

/-- The filter text of a query holds a literal for each value, in their order, and beside them the same
text as the query with nothing in its values, exactly if no value holds a quote. -/
theorem Query.outline?_cql_iff {text : String} {node : QueryNode}
    (read : Query.parse text = .ok (some node)) :
    ∃ filter outline : String, node.cql = .ok filter ∧ node.blank.cql = .ok outline ∧
      (outline? filter.toList = some ⟨outline.toList, node.values.map content⟩ ↔
        ∀ v ∈ node.values, '\'' ∉ v.content) := by
  obtain ⟨filter, outline, hf, ho, written⟩ := hasText_of_isRead (isRead_of_parse read)
  refine ⟨filter, outline, hf, ho, ?_, fun calm => (written.reads calm).outline?⟩
  intro apart v hv
  have outside := count_outlineFrom apart
  have inside := written.count_quotes
  have clear : (node.values.map content).flatten.count '\'' = 0 := by
    simp only [openQuotes, List.length_map] at outside
    omega
  intro member
  exact List.count_eq_zero.1 clear (List.mem_flatten.2 ⟨_, List.mem_map_of_mem hv, member⟩)

theorem Query.outline?_cql_word :
    let node := function "is" [literal "a", literal "x"]
    Query.parse "a:\"x\"" = .ok (some node) ∧
    ∃ filter outline : String, node.cql = .ok filter ∧ node.blank.cql = .ok outline ∧
      (outline? filter.toList = some ⟨outline.toList, node.values.map content⟩ ↔
        ∀ v ∈ node.values, '\'' ∉ v.content) := by
  intro node
  have plain : ∀ c ∈ "x".toList, c ≠ '"' ∧ c ≠ '\\' := by decide
  have read := parse_quoted (by decide : IsField "a") (by decide) plain
  exact ⟨read, Query.outline?_cql_iff read⟩

/-- A value with a quote ends its own literal and leaves another one open. -/
theorem Query.outline?_cql_quote :
    let node := function "is" [literal "a", literal "it's"]
    Query.parse "a:\"it's\"" = .ok (some node) ∧ node.values = [literal "it's"] ∧
    node.cql = .ok "a='it's'" ∧ outline? "a='it's'".toList = none := by
  have plain : ∀ c ∈ "it's".toList, c ≠ '"' ∧ c ≠ '\\' := by decide
  have read := parse_quoted (by decide : IsField "a") (by decide) plain
  refine ⟨read, rfl, ?_, by decide⟩
  cbv

end MapLayer
