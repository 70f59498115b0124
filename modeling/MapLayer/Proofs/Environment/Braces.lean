import Mathlib
import MapLayer.Environment.Expand

/-! Braces that are closed. Main statement: a reference ends at the brace before which all others are closed. -/

namespace MapLayer.Environment

/-- Every brace that is opened is closed, and no other. -/
inductive Balanced : List Char → Prop
  | nil : Balanced []
  | plain {s : List Char} {c : Char} (opens : c ≠ '\x7b') (closes : c ≠ '\x7d') (rest : Balanced s) :
    Balanced (c :: s)
  | nested {s t : List Char} (inner : Balanced s) (rest : Balanced t) :
    Balanced ('\x7b' :: (s ++ '\x7d' :: t))

inductive Closes : Nat → List Char → Prop
  | none {s : List Char} (balanced : Balanced s) : Closes 0 s
  | one {d : Nat} {s t : List Char} (balanced : Balanced s) (rest : Closes d t) :
    Closes (d + 1) (s ++ '\x7d' :: t)

theorem Balanced.append {s t : List Char} (hs : Balanced s) (ht : Balanced t) : Balanced (s ++ t) := by
  induction hs with
  | nil => exact ht
  | plain opens closes _ ih => exact .plain opens closes ih
  | nested inner _ _ ih =>
    rw [List.cons_append, List.append_assoc, List.cons_append]
    exact .nested inner ih

theorem Closes.behind {d : Nat} {s t : List Char} (hs : Balanced s) (ht : Closes d t) : Closes d (s ++ t) := by
  cases ht with
  | none balanced => exact .none (hs.append balanced)
  | one balanced rest =>
    rw [← List.append_assoc]
    exact .one (hs.append balanced) rest

theorem body?_end (s : List Char) : body? 0 ('\x7d' :: s) = some ([], s) := rfl

theorem body?_close (d : Nat) (s : List Char) :
    body? (d + 1) ('\x7d' :: s) = (body? d s).map fun (body, rest) => ('\x7d' :: body, rest) := rfl

theorem body?_open (d : Nat) (s : List Char) :
    body? d ('\x7b' :: s) = (body? (d + 1) s).map fun (body, rest) => ('\x7b' :: body, rest) := rfl

theorem body?_plain {c : Char} (opens : c ≠ '\x7b') (closes : c ≠ '\x7d') (d : Nat) (s : List Char) :
    body? d (c :: s) = (body? d s).map fun (body, rest) => (c :: body, rest) := by
  conv_lhs => unfold body?
  rw [if_neg closes, if_neg opens]

/-- A balanced text is part of the body of a reference, whatever stands behind it. -/
theorem Balanced.body?_append {s : List Char} (balanced : Balanced s) (d : Nat) (t : List Char) :
    body? d (s ++ t) = (body? d t).map fun (body, rest) => (s ++ body, rest) := by
  induction balanced generalizing d t with
  | nil => simp
  | plain opens closes _ ih =>
    rw [List.cons_append, body?_plain opens closes, ih, Option.map_map]
    rfl
  | @nested s t' _ _ ih ih' =>
    rw [List.cons_append, body?_open, List.append_assoc, ih, List.cons_append, body?_close, ih']
    simp [Option.map_map, Function.comp_def]

theorem body?_balanced {body : List Char} (balanced : Balanced body) (rest : List Char) :
    body? 0 (body ++ '\x7d' :: rest) = some (body, rest) := by
  rw [balanced.body?_append, body?_end]
  simp

theorem closes_of_body? {d : Nat} {s body rest : List Char} (h : body? d s = some (body, rest)) :
    Closes d body ∧ s = body ++ '\x7d' :: rest := by
  induction s generalizing d body with
  | nil => cases h
  | cons c s ih =>
    by_cases closes : c = '\x7d'
    · subst closes
      cases d with
      | zero =>
        rw [body?_end] at h
        obtain ⟨rfl, rfl⟩ := Prod.mk.inj (Option.some.inj h)
        exact ⟨.none .nil, rfl⟩
      | succ d =>
        rw [body?_close] at h
        obtain ⟨⟨b, r⟩, found, same⟩ := Option.map_eq_some_iff.1 h
        obtain ⟨rfl, rfl⟩ := Prod.mk.inj same
        obtain ⟨closed, rfl⟩ := ih found
        exact ⟨.one .nil closed, rfl⟩
    · by_cases opens : c = '\x7b'
      · subst opens
        rw [body?_open] at h
        obtain ⟨⟨b, r⟩, found, same⟩ := Option.map_eq_some_iff.1 h
        obtain ⟨rfl, rfl⟩ := Prod.mk.inj same
        obtain ⟨closed, rfl⟩ := ih found
        refine ⟨?_, rfl⟩
        -- the first of the braces that are closed is the one that is opened here
        cases closed with
        | @one _ inner t balanced rest =>
          have run : Balanced ('\x7b' :: (inner ++ ['\x7d'])) := .nested balanced .nil
          simpa using Closes.behind run rest
      · rw [body?_plain opens closes] at h
        obtain ⟨⟨b, r⟩, found, same⟩ := Option.map_eq_some_iff.1 h
        obtain ⟨rfl, rfl⟩ := Prod.mk.inj same
        obtain ⟨closed, rfl⟩ := ih found
        exact ⟨.behind (.plain opens closes .nil) closed, rfl⟩

/-- The body of a reference is balanced, and the first balanced text before a closing brace. -/
theorem body?_eq_some_iff {s body rest : List Char} :
    body? 0 s = some (body, rest) ↔ Balanced body ∧ s = body ++ '\x7d' :: rest := by
  constructor
  · intro h
    obtain ⟨closed, split⟩ := closes_of_body? h
    cases closed with
    | none balanced => exact ⟨balanced, split⟩
  · rintro ⟨balanced, rfl⟩
    exact body?_balanced balanced rest

/-- Behind a brace that is opened in a balanced text a balanced text and a closing brace follow. -/
theorem Balanced.behind_brace {s front back : List Char} (balanced : Balanced s)
    (split : s = front ++ '\x7b' :: back) : ∃ inner rest, Balanced inner ∧ back = inner ++ '\x7d' :: rest := by
  induction balanced generalizing front back with
  | nil => cases front <;> cases split
  | plain opens closes _ ih =>
    cases front with
    | nil => exact absurd (List.cons.inj split).1 opens
    | cons c front => exact ih (List.cons.inj split).2
  | @nested s t inner _ ih ih' =>
    cases front with
    | nil =>
      obtain ⟨-, rfl⟩ := List.cons.inj split
      exact ⟨s, t, inner, rfl⟩
    | cons c front =>
      have tail := (List.cons.inj split).2
      rcases List.append_eq_append_iff.1 tail with ⟨u, rfl, rest⟩ | ⟨u, rfl, rest⟩
      · cases u with
        | nil => cases rest
        | cons d u =>
          obtain ⟨-, rest⟩ := List.cons.inj rest
          exact ih' rest
      · cases u with
        | nil => cases rest
        | cons d u =>
          obtain ⟨rfl, rfl⟩ := List.cons.inj rest
          obtain ⟨inner', rest', balanced, rfl⟩ := ih rfl
          exact ⟨inner', rest' ++ '\x7d' :: t, balanced, by simp⟩

end MapLayer.Environment
