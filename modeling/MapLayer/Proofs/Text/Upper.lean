import MapLayer.Proofs.Cql.Runs
import MapLayer.Text.Upper

/-! What upper case brings into a text: no small letter of ASCII, no long s, no white space and no
parenthesis. -/

namespace MapLayer.Text

/-- Code points that no letter is turned into: what stands before the capital letters, the small letters
of ASCII, the long s, white space and surrogates. -/
def neverCapital : List (Nat × Nat) :=
  [(0, 0x40), (0x61, 0x7A), (0x85, 0x85), (0xA0, 0xA0), (0x17F, 0x17F), (0x1680, 0x1680),
    (0x2000, 0x200A), (0x2028, 0x2029), (0x202F, 0x202F), (0x205F, 0x205F), (0x3000, 0x3000),
    (0xD800, 0xDFFF)]

theorem upperRuns_capital : ∀ r ∈ upperRuns, 0 ≤ r.1 + r.2.2.2 ∧ r.2.1 + r.2.2.2 < 0x110000 ∧
    ∀ g ∈ neverCapital, r.2.1 + r.2.2.2 < (g.1 : Int) ∨ (g.2 : Int) < r.1 + r.2.2.2 := by
  decide +kernel

theorem upperExpansions_capital : ∀ e ∈ upperExpansions, ∀ n ∈ e.2,
    (Char.ofNat n).toNat = n ∧ inRanges neverCapital n = false := by
  decide +kernel

theorem alphabetic_capital : ∀ r ∈ alphabeticRanges, ∀ g ∈ neverCapital,
    g = (0x17F, 0x17F) ∨ r.2 < g.1 ∨ g.2 < r.1 := by
  decide +kernel

theorem isBlank_never {c : Char} (h : isBlank c = true) :
    inRanges neverCapital c.toNat = true := by
  simp only [isBlank, Bool.or_eq_true, Bool.and_eq_true, decide_eq_true_eq, beq_iff_eq] at h
  simp only [inRanges, neverCapital, List.any_cons, List.any_nil, Bool.or_eq_true,
    Bool.and_eq_true, decide_eq_true_eq]
  omega

theorem ascii_upper : ∀ n < 0x80, let c := (Char.ofNat n).toUpper
    c.toNat < 0x80 ∧ ¬(0x61 ≤ c.toNat ∧ c.toNat ≤ 0x7A) ∧ (c.toNat ≤ 0x40 → c = Char.ofNat n) := by
  decide

theorem ascii_isAlpha : ∀ n < 0x41, (Char.ofNat n).isAlpha = false := by
  decide

theorem caseShift_capital {n : Nat} {shift : Int} (h : caseShift? upperRuns n = some shift) :
    (n + shift).toNat < 0x110000 ∧ inRanges neverCapital (n + shift).toNat = false := by
  obtain ⟨⟨first, last, step, shift⟩, found, rfl⟩ := Option.map_eq_some_iff.1 h
  have inside := List.find?_some found
  have away := upperRuns_capital _ (List.mem_of_find?_eq_some found)
  simp only [Bool.and_eq_true, decide_eq_true_eq] at inside
  simp only [neverCapital, List.forall_mem_cons, List.not_mem_nil, false_imp_iff, implies_true] at away
  obtain ⟨lower, upper, away⟩ := away
  have moved : (((n : Int) + shift).toNat : Int) = n + shift := Int.toNat_of_nonneg (by omega)
  generalize ((n : Int) + shift).toNat = m at moved
  simp only [inRanges, neverCapital, List.any_cons, List.any_nil, Bool.or_eq_false_iff,
    Bool.and_eq_false_iff, decide_eq_false_iff_not, and_true]
  omega

theorem toNat_ofNat {n : Nat} (bound : n < 0x110000) (capital : inRanges neverCapital n = false) :
    (Char.ofNat n).toNat = n := by
  simp only [inRanges, neverCapital, List.any_cons, List.any_nil, Bool.or_eq_false_iff,
    Bool.and_eq_false_iff, decide_eq_false_iff_not] at capital
  have valid : n.isValidChar := by
    unfold Nat.isValidChar
    omega
  rw [Char.ofNat, dif_pos valid]
  rfl

/-- An upper case character is that of an ASCII character, one that may be a capital, or the character
itself. -/
theorem mem_upperChar {c d : Char} (h : d ∈ upperChar c) :
    (c.toNat < 0x80 ∧ d = c.toUpper) ∨ inRanges neverCapital d.toNat = false
      ∨ (0x80 ≤ c.toNat ∧ c.toNat ≠ 0x17F ∧ d = c) := by
  simp only [upperChar] at h
  split at h
  · rename_i ascii
    exact .inl ⟨ascii, List.mem_singleton.1 h⟩
  · rename_i wide
    split at h
    · rename_i shift found
      obtain rfl := List.mem_singleton.1 h
      obtain ⟨bound, capital⟩ := caseShift_capital found
      rw [toNat_ofNat bound capital]
      exact .inr (.inl capital)
    · rename_i fixed
      split at h
      · rename_i letters found
        obtain ⟨n, hn, rfl⟩ := List.mem_map.1 h
        obtain ⟨_, _, table, _⟩ := List.lookup_eq_some_iff.1 found
        have listed : (c.toNat, letters) ∈ upperExpansions := by simp [table]
        obtain ⟨same, capital⟩ := upperExpansions_capital _ listed n hn
        rw [same]
        exact .inr (.inl capital)
      · obtain rfl := List.mem_singleton.1 h
        refine .inr (.inr ⟨by omega, ?_, rfl⟩)
        intro long
        rw [long] at fixed
        revert fixed
        decide

/-- Neither a small letter of ASCII nor the long s. -/
def Raised (c : Char) : Prop :=
  ¬(0x61 ≤ c.toNat ∧ c.toNat ≤ 0x7A) ∧ c.toNat ≠ 0x17F

theorem upper_raised {s : List Char} {c : Char} (h : c ∈ upper s) : Raised c := by
  obtain ⟨b, _, hb⟩ := List.mem_flatMap.1 h
  rcases mem_upperChar hb with ⟨ascii, rfl⟩ | capital | ⟨wide, long, rfl⟩
  · have facts := ascii_upper b.toNat ascii
    rw [Char.ofNat_toNat] at facts
    exact ⟨facts.2.1, by omega⟩
  · simp only [inRanges, neverCapital, List.any_cons, List.any_nil, Bool.or_eq_false_iff,
      Bool.and_eq_false_iff, decide_eq_false_iff_not, and_true] at capital
    unfold Raised
    omega
  · exact ⟨by omega, long⟩

theorem Raised.eq_of_spells {c capital : Char} (raised : Raised c)
    (spelled : Cql.spells capital c = true) : c = capital := by
  have same : c.toUpper = c := by
    unfold Char.toUpper
    rw [dif_neg]
    rintro ⟨lower, upper⟩
    exact raised.1 ⟨UInt32.le_iff_toNat_le.1 lower, UInt32.le_iff_toNat_le.1 upper⟩
  simp only [Cql.spells, same, Bool.or_eq_true, Bool.and_eq_true, beq_iff_eq] at spelled
  rcases spelled with rfl | ⟨-, rfl⟩
  · rfl
  · exact absurd rfl raised.2

theorem upper_unbracketed {s : List Char} (plain : Cql.Unbracketed s) :
    Cql.Unbracketed (upper s) := by
  intro c h
  obtain ⟨b, hb, hc⟩ := List.mem_flatMap.1 h
  have other := plain b hb
  rcases mem_upperChar hc with ⟨ascii, rfl⟩ | capital | ⟨-, -, rfl⟩
  · have facts := ascii_upper b.toNat ascii
    rw [Char.ofNat_toNat] at facts
    constructor
    · intro e
      exact other.1 (facts.2.2 (by rw [e]; decide) ▸ e)
    · intro e
      exact other.2 (facts.2.2 (by rw [e]; decide) ▸ e)
  · constructor <;> (rintro rfl; revert capital; decide)
  · exact other

/-- Letters stay clear of white space and parentheses in upper case. -/
theorem upper_letter {s : List Char} (letters : ∀ b ∈ s, isLetter b = true) {c : Char}
    (h : c ∈ upper s) : inRanges neverCapital c.toNat = false := by
  have small := (upper_raised h).1
  obtain ⟨b, hb, hc⟩ := List.mem_flatMap.1 h
  have letter := letters b hb
  rcases mem_upperChar hc with ⟨ascii, rfl⟩ | capital | ⟨wide, long, rfl⟩
  · have facts := ascii_upper b.toNat ascii
    rw [Char.ofNat_toNat] at facts
    have above : 0x40 < b.toUpper.toNat := by
      apply Nat.lt_of_not_le
      intro low
      rw [facts.2.2 low] at low
      rw [isLetter, if_pos ascii] at letter
      have none := ascii_isAlpha b.toNat (by omega)
      rw [Char.ofNat_toNat, letter] at none
      contradiction
    have bound := facts.1
    simp only [inRanges, neverCapital, List.any_cons, List.any_nil, Bool.or_eq_false_iff,
      Bool.and_eq_false_iff, decide_eq_false_iff_not, and_true]
    omega
  · exact capital
  · rw [isLetter, if_neg (by omega)] at letter
    obtain ⟨r, hr, inside⟩ := List.any_eq_true.1 letter
    apply Bool.eq_false_iff.2
    intro never
    obtain ⟨g, hg, within⟩ := List.any_eq_true.1 never
    simp only [Bool.and_eq_true, decide_eq_true_eq] at inside within
    rcases alphabetic_capital r hr g hg with rfl | away | away <;> omega

theorem not_blank_of_capital {c : Char} (capital : inRanges neverCapital c.toNat = false) :
    isBlank c = false := by
  apply Bool.eq_false_iff.2
  intro blank
  rw [isBlank_never blank] at capital
  contradiction

end MapLayer.Text
