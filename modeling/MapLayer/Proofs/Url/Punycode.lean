import Mathlib
import MapLayer.Url.Punycode

/-! How long ASCII forms are. Main statements: they are written in small letters and digits, and letters far
apart take three of them each. -/

namespace MapLayer.Url.Punycode

def IsDigit (c : Char) : Prop := ∃ d < 36, c = digit d

theorem threshold_range (k bias : Nat) : 1 ≤ threshold k bias ∧ threshold k bias ≤ 26 := by
  unfold threshold
  split
  · omega
  · split <;> omega

theorem isDigit_of_mem_digits {bias fuel k q : Nat} {c : Char} (h : c ∈ digits bias fuel k q) :
    IsDigit c := by
  fun_induction digits bias fuel k q with
  | case1 => cases h
  | case2 fuel k q t small =>
    have range : 1 ≤ t ∧ t ≤ 26 := threshold_range k bias
    obtain rfl := List.mem_singleton.1 h
    exact ⟨q, by omega, rfl⟩
  | case3 fuel k q t large ih =>
    have range : 1 ≤ t ∧ t ≤ 26 := threshold_range k bias
    rcases List.mem_cons.1 h with rfl | h
    · have rest := Nat.mod_lt (q - t) (show 0 < 36 - t by omega)
      exact ⟨_, by omega, rfl⟩
    · exact ih h

theorem digits_ne_nil {bias fuel k q : Nat} (fueled : 0 < fuel) : digits bias fuel k q ≠ [] := by
  obtain ⟨fuel, rfl⟩ := Nat.exists_eq_succ_of_ne_zero (Nat.ne_of_gt fueled)
  unfold digits
  dsimp only
  split <;> exact List.cons_ne_nil _ _

/-- Two digits do not suffice for a number from 936 on, whatever the bias is. -/
theorem three_le_length_digits {bias fuel k q : Nat} (fueled : 3 ≤ fuel) (large : 936 ≤ q) :
    3 ≤ (digits bias fuel k q).length := by
  obtain ⟨fuel, rfl⟩ := Nat.exists_eq_add_of_le' fueled
  obtain ⟨low, high⟩ := threshold_range k bias
  obtain ⟨-, next⟩ := threshold_range (k + 36) bias
  have second : 26 ≤ (q - threshold k bias) / (36 - threshold k bias) := by
    rw [Nat.le_div_iff_mul_le (by omega)]
    omega
  rw [digits, if_neg (by omega), digits, if_neg (by omega)]
  simp only [List.length_cons]
  refine Nat.add_le_add_right (Nat.add_le_add_right ?_ 1) 1
  exact List.length_pos_iff.2 (digits_ne_nil (Nat.succ_pos fuel))

section

variable {basic m : Nat} {label : List Char} {st : State}

theorem isDigit_of_mem_visit {c d : Char} (h : d ∈ (visit basic m st c).output) :
    d ∈ st.output ∨ IsDigit d := by
  unfold visit at h
  split at h
  · exact .inl h
  · split at h
    · exact (List.mem_append.1 h).imp_right isDigit_of_mem_digits
    · exact .inl h

theorem isDigit_of_mem_foldl {s : List Char} {d : Char}
    (h : d ∈ (s.foldl (visit basic m) st).output) : d ∈ st.output ∨ IsDigit d := by
  induction s generalizing st with
  | nil => exact .inl h
  | cons c s ih =>
    rcases ih h with h | h
    · exact isDigit_of_mem_visit h
    · exact .inr h

theorem isDigit_of_mem_encodeFrom {fuel n : Nat} {d : Char}
    (h : d ∈ encodeFrom label basic fuel n st) : d ∈ st.output ∨ IsDigit d := by
  induction fuel generalizing n st with
  | zero => exact .inl h
  | succ fuel ih =>
    rw [encodeFrom] at h
    split at h
    · exact .inl h
    · rcases ih h with h | h
      · have round := isDigit_of_mem_foldl h
        exact round
      · exact .inr h

theorem foldl_visit_below {s : List Char} (below : ∀ c ∈ s, c.toNat < m) :
    s.foldl (visit basic m) st = { st with delta := st.delta + s.length } := by
  induction s generalizing st with
  | nil => rfl
  | cons c s ih =>
    rw [List.foldl_cons, ih fun d hd => below d (List.mem_cons_of_mem _ hd), visit,
      if_pos (below c List.mem_cons_self)]
    simp [Nat.add_assoc, Nat.add_comm 1]

theorem foldl_visit_above {s : List Char} (above : ∀ c ∈ s, m < c.toNat) :
    s.foldl (visit basic m) st = st := by
  induction s generalizing st with
  | nil => rfl
  | cons c s ih =>
    have later := above c List.mem_cons_self
    rw [List.foldl_cons, visit, if_neg (by omega), if_neg (by omega)]
    exact ih fun d hd => above d (List.mem_cons_of_mem _ hd)

/-- One round, when the letters up to some point are written and the next one is the least of the rest. -/
theorem encodeFrom_cons {front back : List Char} {c : Char} {n : Nat} (fuel : Nat)
    (below : ∀ d ∈ front, d.toNat < n) (next : n ≤ c.toNat) (above : ∀ d ∈ back, c.toNat < d.toNat) :
    let delta := st.delta + (c.toNat - n) * (st.written + 1) + front.length
    encodeFrom (front ++ c :: back) basic (fuel + 1) n st
      = encodeFrom (front ++ c :: back) basic fuel (c.toNat + 1)
          { delta := 1
            bias := adapt delta (st.written + 1) (st.written == basic)
            written := st.written + 1
            output := st.output ++ digits st.bias (delta + 1) 36 delta } := by
  have past : (front.filter fun d => n ≤ d.toNat) = [] := by
    refine List.filter_eq_nil_iff.2 fun d hd => ?_
    have := below d hd
    simp only [decide_eq_true_eq]
    omega
  have rest : ((c :: back).filter fun d => n ≤ d.toNat) = c :: back := by
    refine List.filter_eq_self.2 fun d hd => ?_
    rw [decide_eq_true_eq]
    rcases List.mem_cons.1 hd with rfl | hd
    · exact next
    · exact Nat.le_trans next (Nat.le_of_lt (above d hd))
  have least : (((front ++ c :: back).filter fun d => n ≤ d.toNat).map Char.toNat).min?
      = some c.toNat := by
    rw [List.filter_append, past, rest, List.nil_append, List.min?_eq_some_iff]
    refine ⟨by simp, ?_⟩
    simp only [List.forall_mem_map, List.forall_mem_cons]
    exact ⟨Nat.le_refl _, fun d hd => Nat.le_of_lt (above d hd)⟩
  have visits (st : State) : (front ++ c :: back).foldl (visit basic c.toNat) st
      = { delta := 0
          bias := adapt (st.delta + front.length) (st.written + 1) (st.written == basic)
          written := st.written + 1
          output := st.output
            ++ digits st.bias (st.delta + front.length + 1) 36 (st.delta + front.length) } := by
    rw [List.foldl_append, foldl_visit_below fun d hd => Nat.lt_of_lt_of_le (below d hd) next,
      List.foldl_cons, foldl_visit_above above, visit, if_neg (Nat.lt_irrefl _), if_pos rfl]
  intro delta
  rw [encodeFrom, least]
  simp only [visits]
  rfl

/-- Letters that rise by more than `step` take three digits each, once `few` of them are written. -/
theorem length_encodeFrom_rising (front : List Char) (st : State) {back : List Char}
    {step few fuel n : Nat}
    (far : 936 ≤ step * (few + 1)) (below : ∀ c ∈ front, c.toNat < n)
    (above : ∀ c ∈ back, n + step ≤ c.toNat)
    (rising : back.Pairwise fun a b => a.toNat + step < b.toNat) (enough : back.length ≤ fuel) :
    3 * back.length + st.output.length ≤
      (encodeFrom (front ++ back) basic fuel n st).length + 3 * (few - st.written) := by
  induction back generalizing front n fuel st with
  | nil =>
    have none : (front.filter fun c => n ≤ c.toNat) = [] := by
      refine List.filter_eq_nil_iff.2 fun c hc => ?_
      have := below c hc
      simp only [decide_eq_true_eq]
      omega
    cases fuel with
    | zero => simp [encodeFrom]
    | succ fuel => simp [encodeFrom, none]
  | cons c back ih =>
    obtain ⟨later, rising⟩ := List.pairwise_cons.1 rising
    obtain ⟨fuel, rfl⟩ := Nat.exists_eq_add_of_le' (Nat.le_trans (Nat.succ_pos _) enough)
    have first := above c List.mem_cons_self
    have passed : ∀ d ∈ front ++ [c], d.toNat < c.toNat + 1 := by
      intro d hd
      rcases List.mem_append.1 hd with hd | hd
      · have := below d hd
        omega
      · rw [List.mem_singleton.1 hd]
        exact Nat.lt_succ_self _
    have ahead : ∀ d ∈ back, c.toNat + 1 + step ≤ d.toNat := by
      intro d hd
      have := later d hd
      omega
    have above' : ∀ d ∈ back, c.toNat < d.toNat := by
      intro d hd
      have := later d hd
      omega
    rw [encodeFrom_cons fuel below (by omega) above', List.append_cons]
    generalize hd : st.delta + (c.toNat - n) * (st.written + 1) + front.length = delta
    have rest := ih (front ++ [c]) {
      delta := 1
      bias := adapt delta (st.written + 1) (st.written == basic)
      written := st.written + 1
      output := st.output ++ digits st.bias (delta + 1) 36 delta } passed ahead rising
      (Nat.le_of_succ_le_succ enough)
    simp only [List.length_append, List.length_cons] at rest ⊢
    rcases Nat.lt_or_ge st.written few with early | late
    · omega
    · -- the distance to the next letter counts once for each letter that is written
      have distance : step * (few + 1) ≤ (c.toNat - n) * (st.written + 1) :=
        Nat.mul_le_mul (by omega) (by omega)
      have three : 3 ≤ (digits st.bias (delta + 1) 36 delta).length :=
        three_le_length_digits (by omega) (by omega)
      omega

end

theorem encode_wide {label : List Char} (wide : ∀ c ∈ label, 0x80 ≤ c.toNat) :
    encode label = encodeFrom label 0 label.length 0x80 ⟨0, 72, 0, []⟩ := by
  have none : (label.filter fun c => c.toNat < 0x80) = [] := by
    refine List.filter_eq_nil_iff.2 fun c hc => ?_
    have := wide c hc
    simp only [decide_eq_true_eq]
    omega
  rw [encode, none]
  rfl

theorem isDigit_of_mem_encode {label : List Char} (wide : ∀ c ∈ label, 0x80 ≤ c.toNat) {d : Char}
    (h : d ∈ encode label) : IsDigit d := by
  rw [encode_wide wide] at h
  rcases isDigit_of_mem_encodeFrom h with h | h
  · cases h
  · exact h

theorem length_encode_rising {label : List Char} {step few : Nat} (far : 936 ≤ step * (few + 1))
    (above : ∀ c ∈ label, 0x80 + step ≤ c.toNat)
    (rising : label.Pairwise fun a b => a.toNat + step < b.toNat) :
    3 * label.length ≤ (encode label).length + 3 * few := by
  rw [encode_wide fun c hc => Nat.le_trans (Nat.le_add_right _ _) (above c hc)]
  exact length_encodeFrom_rising [] ⟨0, 72, 0, []⟩ far nofun above rising (Nat.le_refl _)

end MapLayer.Url.Punycode
