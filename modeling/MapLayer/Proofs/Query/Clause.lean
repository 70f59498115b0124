import Mathlib
import MapLayer.Query.Clause

/-! What combinations are made of. Main statements: what atoms have and combinations inherit holds of all
that is read, so every atom of a combination that was read was read as one. -/

namespace MapLayer.Clause

open MapLayer.Text

variable {α : Type} {P : α → Prop} {atom : Reader α}

inductive Each (P : α → Prop) : Clause α → Prop
  | atom {a : α} (holds : P a) : Each P (.atom a)
  | not {c : Clause α} (operand : Each P c) : Each P (.not c)
  | and {cs : List (Clause α)} (operands : ∀ c ∈ cs, Each P c) : Each P (.and cs)
  | or {cs : List (Clause α)} (operands : ∀ c ∈ cs, Each P c) : Each P (.or cs)

theorem Each.mono {Q : α → Prop} {c : Clause α} (each : c.Each P) (weaker : ∀ a, P a → Q a) :
    c.Each Q := by
  induction each with
  | atom holds => exact .atom (weaker _ holds)
  | not _ ih => exact .not ih
  | and _ ih => exact .and ih
  | or _ ih => exact .or ih

/-- What negations and combinations of at least two operands inherit from their operands. -/
structure Inherited (Q : Clause α → Prop) : Prop where
  not : ∀ c, Q c → Q (.not c)
  and : ∀ cs : List (Clause α), 2 ≤ cs.length → (∀ c ∈ cs, Q c) → Q (.and cs)
  or : ∀ cs : List (Clause α), 2 ≤ cs.length → (∀ c ∈ cs, Q c) → Q (.or cs)

theorem inherited_each (P : α → Prop) : Inherited (Each P) where
  not _ operand := .not operand
  and _ _ operands := .and operands
  or _ _ operands := .or operands

theorem holds_joined {Q : Clause α → Prop} {wrap : List (Clause α) → Clause α}
    (wraps : ∀ cs : List (Clause α), 2 ≤ cs.length → (∀ c ∈ cs, Q c) → Q (wrap cs))
    {first : Clause α} (hf : Q first) {others : List (Clause α)} (ho : ∀ c ∈ others, Q c) :
    Q (Clause.joined wrap first others) := by
  cases others with
  | nil => exact hf
  | cons c others => exact wraps _ (by simp) (List.forall_mem_cons.2 ⟨hf, ho⟩)

section

variable {Q : Clause α → Prop}

mutual

theorem holds_readOr (inherited : Inherited Q)
    (atoms : ∀ {t} (a : Taken α t), atom t = some a → Q (.atom a.value))
    {s : List Char} {c : Taken (Clause α) s} (read : readOr atom s = some c) : Q c.value := by
  rw [readOr] at read
  split at read
  · contradiction
  · rename_i first hf
    obtain rfl := Option.some.inj read
    have := first.shorter
    exact holds_joined inherited.or (holds_readAnd inherited atoms hf)
      (holds_readOrs inherited atoms first.rest)
termination_by (s.length, 3)

theorem holds_readOrs (inherited : Inherited Q)
    (atoms : ∀ {t} (a : Taken α t), atom t = some a → Q (.atom a.value))
    (s : List Char) : ∀ c ∈ (readOrs atom s).value, Q c := by
  rw [readOrs]
  split
  · nofun
  · rename_i r word
    have fewer : (skip r).length < s.length := by
      have := length_afterKeyword? word
      have := length_skip_le s
      have := length_skip_le r
      simp only [List.length_cons, List.length_nil] at *
      omega
    split
    · nofun
    · rename_i next hn
      have shorter := next.shorter
      exact List.forall_mem_cons.2 ⟨holds_readAnd inherited atoms hn, holds_readOrs inherited atoms next.rest⟩
termination_by (s.length, 0)

theorem holds_readAnd (inherited : Inherited Q)
    (atoms : ∀ {t} (a : Taken α t), atom t = some a → Q (.atom a.value))
    {s : List Char} {c : Taken (Clause α) s} (read : readAnd atom s = some c) : Q c.value := by
  rw [readAnd] at read
  split at read
  · contradiction
  · rename_i first hf
    obtain rfl := Option.some.inj read
    have := first.shorter
    exact holds_joined inherited.and (holds_readNot inherited atoms hf)
      (holds_readAnds inherited atoms first.rest)
termination_by (s.length, 2)

theorem holds_readAnds (inherited : Inherited Q)
    (atoms : ∀ {t} (a : Taken α t), atom t = some a → Q (.atom a.value))
    (s : List Char) : ∀ c ∈ (readAnds atom s).value, Q c := by
  rw [readAnds]
  split
  · nofun
  · rename_i r word
    have fewer : (skip r).length < s.length := by
      have := length_afterKeyword? word
      have := length_skip_le s
      have := length_skip_le r
      simp only [List.length_cons, List.length_nil] at *
      omega
    split
    · nofun
    · rename_i next hn
      have shorter := next.shorter
      exact List.forall_mem_cons.2 ⟨holds_readNot inherited atoms hn, holds_readAnds inherited atoms next.rest⟩
termination_by (s.length, 0)

theorem holds_readNot (inherited : Inherited Q)
    (atoms : ∀ {t} (a : Taken α t), atom t = some a → Q (.atom a.value))
    {s : List Char} {c : Taken (Clause α) s} (read : readNot atom s = some c) : Q c.value := by
  rw [readNot] at read
  split at read
  · rename_i negation
    exact holds_readNegation inherited atoms (negation.trans read)
  · split at read
    · rename_i group
      exact holds_readGroup inherited atoms (group.trans read)
    · obtain ⟨a, ha, rfl⟩ := Option.map_eq_some_iff.1 read
      exact atoms a ha
termination_by (s.length, 1)

theorem holds_readNegation (inherited : Inherited Q)
    (atoms : ∀ {t} (a : Taken α t), atom t = some a → Q (.atom a.value))
    {s : List Char} {c : Taken (Clause α) s} (read : readNegation atom s = some c) :
    Q c.value := by
  rw [readNegation] at read
  split at read
  · contradiction
  · rename_i r word
    have fewer : (skip r).length < s.length := by
      have := length_afterKeyword? word
      have := length_skip_le r
      simp only [List.length_cons, List.length_nil] at *
      omega
    obtain ⟨operand, ho, rfl⟩ := Option.map_eq_some_iff.1 read
    exact inherited.not _ (holds_readNot inherited atoms ho)
termination_by (s.length, 0)

theorem holds_readGroup (inherited : Inherited Q)
    (atoms : ∀ {t} (a : Taken α t), atom t = some a → Q (.atom a.value))
    {s : List Char} {c : Taken (Clause α) s} (read : readGroup atom s = some c) : Q c.value := by
  unfold readGroup at read
  split at read
  · split at read
    · contradiction
    · rename_i inner found
      have holds := holds_readOr inherited atoms found
      split at read
      · obtain rfl := Option.some.inj read
        exact holds
      · contradiction
  · contradiction
termination_by (s.length, 0)
decreasing_by
  subst_vars
  exact Prod.Lex.left _ _ (Nat.lt_succ_of_le (length_skip_le _))

end

end

theorem each_readOr (atoms : ∀ {t} (a : Taken α t), atom t = some a → P a.value)
    {s : List Char} {c : Taken (Clause α) s} (read : readOr atom s = some c) : Each P c.value :=
  holds_readOr (inherited_each P) (fun a found => .atom (atoms a found)) read

theorem each_readGroup (atoms : ∀ {t} (a : Taken α t), atom t = some a → P a.value)
    {s : List Char} {c : Taken (Clause α) s} (read : readGroup atom s = some c) : Each P c.value :=
  holds_readGroup (inherited_each P) (fun a found => .atom (atoms a found)) read

end MapLayer.Clause
