import MapLayer.Proofs.Query.Grammar
import MapLayer.Proofs.Query.Reading

/-!
Reading combinations, given what is read of their operands. Main statements: a row of operands is read as
one combination of all of them, and a negation and a group are read as what is inside.
-/

namespace MapLayer

open MapLayer.Text MapLayer.Query

namespace Text

/-- A reader finds a value at the front of a text. -/
def Finds {α : Type} (r : Reader α) (s : List Char) (v : α) (rest : List Char) : Prop :=
  ∃ t, r s = some t ∧ t.value = v ∧ t.rest = rest

end Text

namespace Clause

variable {α : Type} {atom : Reader α} {s t w b rest : List Char} {word : List Char}

/-- Text that does not start with spacing. -/
def Solid (s : List Char) : Prop := ∃ c t, s = c :: t ∧ isSpacing c = false

theorem Solid.append (h : Solid s) (t : List Char) : Solid (s ++ t) := by
  obtain ⟨c, u, rfl, solid⟩ := h
  exact ⟨c, u ++ t, rfl, solid⟩

theorem skip_of_solid (h : Solid s) : skip s = s := by
  obtain ⟨c, t, rfl, solid⟩ := h
  exact List.dropWhile_cons_of_neg (by simp [solid])

theorem skip_padding (h : Padding b) : skip b = [] := List.dropWhile_eq_nil_iff.2 h

theorem skip_append (h : Padding b) (s : List Char) : skip (b ++ s) = skip s :=
  List.dropWhile_append_of_pos h

theorem skip_append_solid (h : Padding b) (solid : Solid s) : skip (b ++ s) = s :=
  (skip_append h s).trans (skip_of_solid solid)

theorem Solid.of_isWord (h : Solid word) (named : IsWord word w) : Solid w := by
  obtain ⟨c, t, rfl, solid⟩ := h
  obtain ⟨d, u, rfl, same, -⟩ := List.map_eq_cons_iff.1 named
  refine ⟨d, u, rfl, Bool.eq_false_iff.2 fun spacing => ?_⟩
  have lower : isSpacing d.toLower = true := by
    simp only [isSpacing, Bool.or_eq_true, beq_iff_eq] at spacing
    rcases spacing with ((rfl | rfl) | rfl) | rfl <;> decide
  rw [same, solid] at lower
  contradiction

theorem afterWord?_append (h : IsWord word w) (s : List Char) : afterWord? word (w ++ s) = some s := by
  induction w generalizing word with
  | nil =>
    obtain rfl : [] = word := h
    rfl
  | cons c w ih =>
    obtain rfl : c.toLower :: w.map Char.toLower = word := h
    rw [List.cons_append, afterWord?, if_pos rfl]
    exact ih rfl

/-- What may stand between a keyword and its operand: spacing, or nothing before a parenthesis. -/
def Parts (b s : List Char) : Prop := Padding b ∧ (b ≠ [] ∨ s.head? = some '(')

theorem parts_of_gap (gap : Gap b) (s : List Char) : Parts b s := ⟨gap.1, .inl gap.2⟩

theorem Parts.append (parts : Parts b s) (t : List Char) : Parts b (s ++ t) := by
  obtain ⟨padding, apart | opened⟩ := parts
  · exact ⟨padding, .inl apart⟩
  · exact ⟨padding, .inr (by simp [List.head?_append, opened])⟩

theorem afterKeyword?_append (h : IsWord word w) (parts : Parts b s) :
    afterKeyword? word (w ++ (b ++ s)) = some (b ++ s) := by
  obtain ⟨padding, apart⟩ := parts
  rw [afterKeyword?, afterWord?_append h]
  cases b with
  | nil =>
    cases s with
    | nil => simp at apart
    | cons c s =>
      obtain rfl : c = '(' := by simpa using apart
      rfl
  | cons c b =>
    have spacing : isSpacing c = true := padding c List.mem_cons_self
    simp [spacing]

theorem afterKeyword?_eq_none {c d : Char} (other : d.toLower ≠ c) (word s : List Char) :
    afterKeyword? (c :: word) (d :: s) = none := by
  rw [afterKeyword?, afterWord?, if_neg other]

/-- Whether no operand follows after a word. -/
def Ends (word : List Char) (rest : List Char) : Prop := afterKeyword? word (skip rest) = none

section rows

variable {operand : Reader (Clause α)} {more : (s : List Char) → Kept (List (Clause α)) s}
  {c : Clause α} {cs : List (Clause α)}

/-- How operands are read that stand after a word each. -/
structure Chain (word : List Char) (operand : Reader (Clause α))
    (more : (s : List Char) → Kept (List (Clause α)) s) : Prop where
  solid : Solid word
  ends : ∀ s, Ends word s → (more s).value = [] ∧ (more s).rest = s
  goesOn : ∀ s r, afterKeyword? word (skip s) = some r → ∀ next, operand (skip r) = some next →
    (more s).value = next.value :: (more next.rest).value ∧ (more s).rest = (more next.rest).rest

theorem chain_ands (atom : Reader α) : Chain ['a', 'n', 'd'] (readNot atom) (readAnds atom) where
  solid := ⟨_, _, rfl, by decide⟩
  ends s h := by
    rw [readAnds]
    split
    · exact ⟨rfl, rfl⟩
    · rename_i found
      rw [Ends, found] at h
      cases h
  goesOn s r h next read := by
    rw [readAnds]
    split
    · rename_i found
      rw [h] at found
      cases found
    · rename_i r' found
      obtain rfl : r = r' := Option.some.inj (h.symm.trans found)
      rw [read]
      exact ⟨rfl, rfl⟩

theorem chain_ors (atom : Reader α) : Chain ['o', 'r'] (readAnd atom) (readOrs atom) where
  solid := ⟨_, _, rfl, by decide⟩
  ends s h := by
    rw [readOrs]
    split
    · exact ⟨rfl, rfl⟩
    · rename_i found
      rw [Ends, found] at h
      cases h
  goesOn s r h next read := by
    rw [readOrs]
    split
    · rename_i found
      rw [h] at found
      cases found
    · rename_i r' found
      obtain rfl : r = r' := Option.some.inj (h.symm.trans found)
      rw [read]
      exact ⟨rfl, rfl⟩

def FindsRow (operand : Reader (Clause α)) (more : (s : List Char) → Kept (List (Clause α)) s)
    (s : List Char) (cs : List (Clause α)) (rest : List Char) : Prop :=
  ∃ first, operand s = some first ∧ first.value :: (more first.rest).value = cs ∧
    (more first.rest).rest = rest

theorem Chain.one (chain : Chain word operand more) (h : Finds operand s c rest)
    (ends : Ends word rest) : FindsRow operand more s [c] rest := by
  obtain ⟨first, read, rfl, rfl⟩ := h
  obtain ⟨none, same⟩ := chain.ends _ ends
  exact ⟨first, read, by rw [none], same⟩

theorem Chain.cons (chain : Chain word operand more) {b b' u : List Char}
    (h : Finds operand s c (b ++ (w ++ (b' ++ u)))) (before : Padding b) (named : IsWord word w)
    (after : Parts b' u) (start : Solid u)
    (others : FindsRow operand more u cs rest) : FindsRow operand more s (c :: cs) rest := by
  obtain ⟨first, read, rfl, left⟩ := h
  obtain ⟨next, readNext, rfl, rfl⟩ := others
  have keyword : afterKeyword? word (skip first.rest) = some (b' ++ u) := by
    rw [left, skip_append_solid before ((chain.solid.of_isWord named).append _)]
    exact afterKeyword?_append named after
  have resumed : skip (b' ++ u) = u := skip_append_solid after.1 start
  obtain ⟨value, left⟩ : (more first.rest).value = next.value :: (more next.rest).value ∧
      (more first.rest).rest = (more next.rest).rest := by
    have goesOn := chain.goesOn _ _ keyword
    rw [resumed] at goesOn
    exact goesOn next readNext
  exact ⟨first, read, by rw [value], left⟩

variable (leaf : α → QueryNode)

theorem node_joined {name : String} {wrap : List (Clause α) → Clause α}
    (node_wrap : ∀ cs, node leaf (wrap cs) = .function name (nodes leaf cs)) :
    node leaf (joined wrap c cs) = gathered name (nodes leaf (c :: cs)) := by
  cases cs with
  | nil => rfl
  | cons d cs => exact node_wrap (c :: d :: cs)

theorem finds_readAnd (h : FindsRow (readNot atom) (readAnds atom) s cs rest) :
    ∃ c, Finds (readAnd atom) s c rest ∧ node leaf c = gathered "and" (nodes leaf cs) := by
  obtain ⟨first, read, rfl, rfl⟩ := h
  have found : Finds (readAnd atom) s (joined .and first.value (readAnds atom first.rest).value)
      (readAnds atom first.rest).rest := by
    unfold Finds
    rw [readAnd, read]
    exact ⟨_, rfl, rfl, rfl⟩
  exact ⟨_, found, node_joined leaf fun _ => rfl⟩

theorem finds_readOr (h : FindsRow (readAnd atom) (readOrs atom) s cs rest) :
    ∃ c, Finds (readOr atom) s c rest ∧ node leaf c = gathered "or" (nodes leaf cs) := by
  obtain ⟨first, read, rfl, rfl⟩ := h
  have found : Finds (readOr atom) s (joined .or first.value (readOrs atom first.rest).value)
      (readOrs atom first.rest).rest := by
    unfold Finds
    rw [readOr, read]
    exact ⟨_, rfl, rfl, rfl⟩
  exact ⟨_, found, node_joined leaf fun _ => rfl⟩

end rows

section operands

variable {c : Clause α}

theorem finds_readNot_not (h : Finds (readNot atom) s c rest) (named : IsWord ['n', 'o', 't'] w)
    (after : Parts b s) (start : Solid s) : Finds (readNot atom) (w ++ (b ++ s)) (.not c) rest := by
  have keyword := afterKeyword?_append named after
  have resumed : skip (b ++ s) = s := skip_append_solid after.1 start
  have h : Finds (readNot atom) (skip (b ++ s)) c rest := by
    rw [resumed]
    exact h
  obtain ⟨t, read, rfl, rfl⟩ := h
  have negation : Finds (readNegation atom) (w ++ (b ++ s)) (.not t.value) t.rest := by
    unfold Finds
    rw [readNegation]
    split
    · rename_i none
      rw [keyword] at none
      cases none
    · rename_i r found
      obtain rfl : b ++ s = r := Option.some.inj (keyword.symm.trans found)
      rw [read]
      exact ⟨_, rfl, rfl, rfl⟩
  obtain ⟨d, read, same, left⟩ := negation
  refine ⟨d, ?_, same, left⟩
  rw [readNot, read]

theorem finds_readGroup {b b' : List Char} (h : Finds (readOr atom) s c (b' ++ ')' :: rest))
    (before : Padding b) (start : Solid s) (after : Padding b') :
    Finds (readGroup atom) ('(' :: (b ++ s)) c rest := by
  have resumed : skip (b ++ s) = s := skip_append_solid before start
  have h : Finds (readOr atom) (skip (b ++ s)) c (b' ++ ')' :: rest) := by
    rw [resumed]
    exact h
  obtain ⟨t, read, rfl, left⟩ := h
  have closed : skip t.rest = ')' :: rest := by
    rw [left, skip_append_solid after ⟨_, _, rfl, by decide⟩]
  unfold Finds
  rw [readGroup, read]
  dsimp only
  split
  · rename_i u found
    obtain ⟨-, rfl⟩ := List.cons.inj (closed.symm.trans found)
    exact ⟨_, rfl, rfl, rfl⟩
  · rename_i other
    exact absurd closed (other _)

theorem finds_readNot_group {b b' : List Char} (h : Finds (readOr atom) s c (b' ++ ')' :: rest))
    (before : Padding b) (start : Solid s) (after : Padding b') :
    Finds (readNot atom) ('(' :: (b ++ s)) c rest := by
  have plain : afterKeyword? ['n', 'o', 't'] ('(' :: (b ++ s)) = none :=
    afterKeyword?_eq_none (by decide) _ _
  obtain ⟨d, read, same, left⟩ := finds_readGroup h before start after
  refine ⟨d, ?_, same, left⟩
  rw [readNot, readNegation_eq_none plain, read]

end operands

end Clause

end MapLayer
