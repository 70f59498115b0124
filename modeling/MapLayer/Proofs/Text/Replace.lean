import MapLayer.Proofs.Text.Pieces

/-! Replacing a mark in a text. Main statement: what stands on either side of a character that is not part
of the mark is replaced on its own. -/

namespace MapLayer.Text

variable {mark new s t before rest : List Char} {c : Char}

theorem after?_append_cons (outside : c ∉ mark) (s t : List Char) :
    after? mark (s ++ c :: t) = (after? mark s).map (· ++ c :: t) := by
  induction mark generalizing s with
  | nil => rfl
  | cons d mark ih =>
    obtain ⟨other, outside⟩ := not_or.1 (mt List.mem_cons.2 outside)
    cases s with
    | nil => simp [after?, Ne.symm other]
    | cons e s =>
      by_cases same : d = e
      · simpa [after?, same] using ih outside s
      · simp [after?, same]

theorem cut?_append_cons (outside : c ∉ mark) (s t : List Char) :
    cut? mark (s ++ c :: t) = match cut? mark s with
      | some (before, rest) => some (before, rest ++ c :: t)
      | none => (cut? mark t).map fun (before, rest) => (s ++ c :: before, rest) := by
  induction s with
  | nil =>
    cases mark with
    | nil => rfl
    | cons d mark =>
      have other : d ≠ c := fun same => outside (same ▸ List.mem_cons_self)
      simp [cut?, after?, other]
  | cons e s ih =>
    have start := after?_append_cons outside (e :: s) t
    rw [List.cons_append] at start
    rw [List.cons_append, cut?, cut?, start, ih]
    cases after? mark (e :: s) with
    | some rest => rfl
    | none =>
      cases cut? mark s with
      | some found => rfl
      | none => cases cut? mark t <;> rfl

theorem replace_of_cut?_eq_none (absent : cut? mark s = none) : replace mark new s = s := by
  rw [replace]
  split
  · rfl
  · split
    · rfl
    · rename_i found
      rw [absent] at found
      cases found

theorem replace_of_cut? (filled : mark ≠ []) (found : cut? mark s = some (before, rest)) :
    replace mark new s = before ++ new ++ replace mark new rest := by
  rw [replace, dif_neg filled]
  split
  · rename_i absent
    rw [absent] at found
    cases found
  · rename_i again
    rw [found] at again
    cases again
    rfl

theorem replace_of_not_occursIn (absent : occursIn mark s = false) : replace mark new s = s :=
  replace_of_cut?_eq_none (Option.isSome_eq_false_iff.1 absent |> Option.isNone_iff_eq_none.1)

theorem cut?_eq_none_of_not_mem (inside : c ∈ mark) (absent : c ∉ s) : cut? mark s = none := by
  cases found : cut? mark s with
  | none => rfl
  | some parts =>
    rw [append_of_cut? found] at absent
    exact absurd (List.mem_append_left _ (List.mem_append_right _ inside)) absent

theorem replace_of_not_mem (inside : c ∈ mark) (absent : c ∉ s) : replace mark new s = s :=
  replace_of_cut?_eq_none (cut?_eq_none_of_not_mem inside absent)

theorem replace_append_cons (outside : c ∉ mark) (s t : List Char) :
    replace mark new (s ++ c :: t) = replace mark new s ++ c :: replace mark new t := by
  by_cases filled : mark = []
  · subst filled
    simp [replace]
  have both := cut?_append_cons outside s t
  cases found : cut? mark s with
  | some parts =>
    obtain ⟨before, rest⟩ := parts
    have shorter : rest.length < s.length := by
      have := length_of_cut? found
      have := List.length_pos_iff.2 filled
      omega
    rw [found] at both
    rw [replace_of_cut? filled both, replace_of_cut? filled found, replace_append_cons outside rest t]
    simp
  | none =>
    rw [found] at both
    rw [replace_of_cut?_eq_none found]
    cases later : cut? mark t with
    | none =>
      rw [later] at both
      rw [replace_of_cut?_eq_none both, replace_of_cut?_eq_none later]
    | some parts =>
      rw [later] at both
      rw [replace_of_cut? filled both, replace_of_cut? filled later]
      simp
termination_by s.length

theorem replace_nil : replace mark new [] = [] := by
  by_cases filled : mark = []
  · rw [replace, dif_pos filled]
  · exact replace_of_cut?_eq_none (if_neg filled)

theorem replace_mark (filled : mark ≠ []) : replace mark new mark = new := by
  have found : cut? mark mark = some ([], []) := by
    cases mark with
    | nil => contradiction
    | cons c mark => simp [cut?, after?_eq_some_iff.2 (List.append_nil (c :: mark)).symm]
  rw [replace_of_cut? filled found, replace_nil, List.nil_append, List.append_nil]

theorem mem_replace (h : c ∈ replace mark new s) : c ∈ s ∨ c ∈ new := by
  fun_induction replace mark new s with
  | case1 => exact .inl h
  | case2 => exact .inl h
  | case3 s filled before rest found ih =>
    rw [append_of_cut? found]
    rcases List.mem_append.1 h with h | h
    · rcases List.mem_append.1 h with h | h
      · exact .inl (List.mem_append_left _ (List.mem_append_left _ h))
      · exact .inr h
    · exact (ih h).imp_left (List.mem_append_right _)

/-- A text starts with its own first character, or with the first one of what is put in. -/
theorem head?_replace (filled : new ≠ []) :
    (replace mark new s).head? = s.head? ∨ (replace mark new s).head? = new.head? := by
  rw [replace]
  split
  · exact .inl rfl
  · split
    · exact .inl rfl
    · rename_i before rest found
      cases before with
      | nil =>
        obtain ⟨d, new, rfl⟩ := List.exists_cons_of_ne_nil filled
        exact .inr rfl
      | cons c before => exact .inl (by simp [append_of_cut? found])

end MapLayer.Text
