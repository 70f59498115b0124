import MapLayer.Proofs.Text.Pieces

/-! Where a text is cut. Main statement: it is cut at the first place where the mark stands. -/

namespace MapLayer.Text

/-- The two sides of the first place of a text where a mark stands. -/
structure FirstCut (mark s before rest : List Char) : Prop where
  text : s = before ++ mark ++ rest
  first : ∀ b r, s = b ++ mark ++ r → before.length ≤ b.length

variable {mark s before rest : List Char}

theorem FirstCut.unique {before' rest' : List Char} (cut : FirstCut mark s before rest)
    (cut' : FirstCut mark s before' rest') : before = before' ∧ rest = rest' := by
  have level := Nat.le_antisymm (cut.first _ _ cut'.text) (cut'.first _ _ cut.text)
  have same : before ++ (mark ++ rest) = before' ++ (mark ++ rest') := by
    rw [← List.append_assoc, ← List.append_assoc, ← cut.text, ← cut'.text]
  obtain ⟨rfl, behind⟩ := List.append_inj same level
  exact ⟨rfl, List.append_cancel_left behind⟩

theorem cut?_eq_none_iff : cut? mark s = none ↔ ∀ b r, s ≠ b ++ mark ++ r := by
  constructor
  · rintro absent b r rfl
    have occurs := occursIn_append mark b r
    rw [occursIn, absent] at occurs
    cases occurs
  · intro absent
    cases found : cut? mark s with
    | none => rfl
    | some parts => exact absurd (append_of_cut? found) (absent _ _)

theorem firstCut_of_cut? (h : cut? mark s = some (before, rest)) : FirstCut mark s before rest := by
  refine ⟨append_of_cut? h, ?_⟩
  induction s generalizing before with
  | nil =>
    have empty := append_of_cut? h
    simp only [List.nil_eq, List.append_eq_nil_iff] at empty
    simp [empty]
  | cons c s ih =>
    rw [cut?] at h
    intro b r split
    cases start : after? mark (c :: s) with
    | some back =>
      rw [start] at h
      obtain ⟨rfl, -⟩ := Prod.mk.inj (Option.some.inj h)
      exact Nat.zero_le _
    | none =>
      rw [start] at h
      obtain ⟨⟨front, back⟩, found, same⟩ := Option.map_eq_some_iff.1 h
      obtain ⟨rfl, rfl⟩ := Prod.mk.inj same
      cases b with
      | nil =>
        rw [after?_eq_some_iff.2 (by simpa using split)] at start
        cases start
      | cons d b =>
        have rest' : s = b ++ mark ++ r := (List.cons.inj split).2
        exact Nat.succ_le_succ (ih found b r rest')

theorem cut?_eq_some_iff : cut? mark s = some (before, rest) ↔ FirstCut mark s before rest := by
  constructor
  · exact firstCut_of_cut?
  · intro cut
    cases found : cut? mark s with
    | none => exact absurd cut.text (cut?_eq_none_iff.1 found _ _)
    | some parts =>
      obtain ⟨rfl, rfl⟩ := cut.unique (firstCut_of_cut? found)
      rfl

end MapLayer.Text
