import MapLayer.Proofs.Query.Tree

/-! What is read at the front of a query. Main statement: a text in which no field is tested, and which
starts no combination, is no query. -/

namespace MapLayer

open MapLayer.Text

namespace Clause

variable {α : Type} {atom : Reader α} {s : List Char}

theorem append_of_afterWord? {word s r : List Char} (h : afterWord? word s = some r) :
    ∃ w, s = w ++ r ∧ w.map Char.toLower = word := by
  fun_induction afterWord? word s with
  | case1 s => exact ⟨[], by simpa using h, rfl⟩
  | case2 => contradiction
  | case3 _ c s ih =>
    obtain ⟨w, rfl, same⟩ := ih h
    exact ⟨c :: w, rfl, by rw [List.map_cons, same]⟩
  | case4 => contradiction

theorem append_of_afterKeyword? {word s r : List Char} (h : afterKeyword? word s = some r) :
    ∃ w c t, s = w ++ c :: t ∧ w.map Char.toLower = word ∧ (isSpacing c = true ∨ c = '(') := by
  unfold afterKeyword? at h
  split at h
  · rename_i c t found
    split at h
    · rename_i ends
      obtain ⟨w, rfl, same⟩ := append_of_afterWord? found
      exact ⟨w, c, t, rfl, same, by simpa using ends⟩
    · contradiction
  · contradiction

/-- A keyword that is read at the front of a word is all of that word, if neither the keyword can go on after
the word nor end inside of it. -/
theorem eq_of_afterKeyword? {word w rest r : List Char}
    (inside : ∀ c ∈ w, isSpacing c = false ∧ c ≠ '(') (outside : ∀ c ∈ rest.head?, c.toLower ∉ word)
    (h : afterKeyword? word (w ++ rest) = some r) : r = rest ∧ w.map Char.toLower = word := by
  unfold afterKeyword? at h
  split at h
  · rename_i d t found
    split at h
    · rename_i ends
      obtain rfl := Option.some.inj h
      obtain ⟨v, split, named⟩ := append_of_afterWord? found
      rcases List.append_eq_append_iff.1 split with ⟨x, front, tail⟩ | ⟨x, front, tail⟩
      -- the keyword would go on after the word
      · cases x with
        | nil => exact ⟨tail.symm, by simpa [front] using named⟩
        | cons e x =>
          have beyond := outside e (by rw [tail]; rfl)
          have among : e.toLower ∈ v.map Char.toLower := List.mem_map_of_mem (by simp [front])
          exact absurd (named ▸ among) beyond
      -- the keyword would end inside of the word
      · cases x with
        | nil => exact ⟨tail, by simpa [front] using named⟩
        | cons e x =>
          obtain rfl : d = e := (List.cons.inj tail).1
          obtain ⟨spacing, paren⟩ := inside d (by simp [front])
          simp [spacing, paren] at ends
    · cases h
  · cases h

theorem readGroup_eq_none (unopened : s.head? ≠ some '(') : readGroup atom s = none := by
  unfold readGroup
  split
  · exact absurd rfl unopened
  · rfl

theorem readNegation_eq_none (plain : afterKeyword? ['n', 'o', 't'] s = none) :
    readNegation atom s = none := by
  unfold readNegation
  split
  · rfl
  · rename_i found
    rw [plain] at found
    cases found

theorem readNot_eq_atom (plain : afterKeyword? ['n', 'o', 't'] s = none)
    (unopened : s.head? ≠ some '(') :
    readNot atom s = (atom s).map fun a => a.as (.atom a.value) := by
  rw [readNot, readNegation_eq_none plain, readGroup_eq_none unopened]

theorem readOr_eq_none (plain : afterKeyword? ['n', 'o', 't'] s = none)
    (unopened : s.head? ≠ some '(') (none : atom s = none) : readOr atom s = .none := by
  rw [readOr, readAnd, readNot_eq_atom plain unopened, none]
  rfl

end Clause

namespace Query

open Clause

theorem not_isFieldChar {c : Char} (ends : isSpacing c = true ∨ c = '(') :
    isFieldChar c = false := by
  simp only [isSpacing, Bool.or_eq_true, beq_iff_eq] at ends
  rcases ends with (((rfl | rfl) | rfl) | rfl) | rfl <;> decide

end Query

end MapLayer
