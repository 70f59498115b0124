import MapLayer.DateMath
import MapLayer.Proofs.Calendar.Reader

/-!
Date expressions taken apart. Main statements: an expression is an instant to start from and operations that
do not depend on it, and operations are read one after the other.
-/

namespace MapLayer.DateMath

open Instant Text

def behindAnchor (s : List Char) : List Char :=
  match after? ['n', 'o', 'w'] s with
  | some rest => rest
  | none => match cut? ['|', '|'] s with
    | some (_, rest) => rest
    | none => []

/-- The absolute instant in front of an expression. -/
def absolute? (s : List Char) : Option Instant :=
  match cut? ['|', '|'] s with
  | some (front, _) => ofText? front
  | none => ofText? s

def start? (now : Instant) (s : List Char) : Option Instant :=
  if (after? ['n', 'o', 'w'] s).isSome then some now else absolute? s

def steps? (expr : String) : Option (List Operation) :=
  operations? (behindAnchor (trim expr.toList))

theorem anchor?_eq (now : Instant) (s : List Char) :
    anchor? now s = (start? now s).map fun t => (t, behindAnchor s) := by
  unfold anchor? start? absolute? behindAnchor
  cases after? ['n', 'o', 'w'] s with
  | some rest => rfl
  | none =>
    cases cut? ['|', '|'] s with
    | some parts => rfl
    | none => rfl

theorem inCalendar_of_absolute? {s : List Char} {t : Instant} (found : absolute? s = some t) :
    t.InCalendar := by
  unfold absolute? at found
  split at found
  · exact dated_ofText? _ _ found
  · exact dated_ofText? _ _ found

theorem inCalendar_of_anchor? {now t : Instant} (h : now.InCalendar) {s rest : List Char}
    (anchored : anchor? now s = some (t, rest)) : t.InCalendar := by
  obtain ⟨start, found, same⟩ := Option.map_eq_some_iff.1 (anchor?_eq now s ▸ anchored)
  cases same
  unfold start? at found
  split at found
  · cases found
    exact h
  · exact inCalendar_of_absolute? found

/-- An expression has a value if it has a start and operations, and those have one from there on. -/
theorem eval?_eq_some {expr : String} {now r : Instant} {up : Bool} :
    eval? expr now up = some r ↔ trim expr.toList ≠ [] ∧ ∃ t ops, start? now (trim expr.toList) = some t ∧
      steps? expr = some ops ∧ run up t ops = some r := by
  simp only [eval?, anchor?_eq, steps?]
  split
  · simp_all
  · rename_i filled
    simp [filled, Option.bind_eq_some_iff]

theorem operations?_cons (sign : Char) {ds : List Char} (digits : ∀ c ∈ ds, c.isDigit = true)
    {unit : Char} (other : unit.isDigit = false) (rest : List Char) :
    operations? (sign :: (ds ++ unit :: rest))
      = (operation? sign ds unit).bind fun first => (operations? rest).map (first :: ·) := by
  have dropped : (ds ++ unit :: rest).dropWhile Char.isDigit = unit :: rest := by
    rw [List.dropWhile_append_of_pos digits, List.dropWhile_cons_of_neg (by simp [other])]
  have taken : (ds ++ unit :: rest).takeWhile Char.isDigit = ds := by
    rw [List.takeWhile_append_of_pos digits, List.takeWhile_cons_of_neg (by simp [other]),
      List.append_nil]
  rw [operations?]
  split
  · rename_i none
    rw [dropped] at none
    cases none
  · rename_i unit' rest' found
    rw [dropped] at found
    cases found
    rw [taken]
    cases operation? sign ds unit with
    | none => rfl
    | some first => cases operations? rest <;> rfl

theorem operations?_nil : operations? [] = some [] := by rw [operations?]

theorem plain_of_ofChar? {letter : Char} {u : TimeUnit} (named : TimeUnit.ofChar? letter = some u) :
    isBlank letter = false ∧ letter.isDigit = false := by
  unfold TimeUnit.ofChar? at named
  split at named <;> cases named <;> decide

end MapLayer.DateMath
