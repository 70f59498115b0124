import MapLayer.Proofs.DateMath.Expression
import MapLayer.Proofs.Text.Pieces

/-!
The texts of date expressions. Main statements: operations are read from the texts that spell them and from no
others, and an expression is worked out from now, or from the instant in front of two bars.
-/

namespace MapLayer.DateMath

open Instant Text

/-- The amount that the digits of an operation write. Without digits it is one. -/
def amountOf (ds : List Char) : Nat := if ds = [] then 1 else valueOf ds

/-- How an operation is written: a sign, digits and the letter of a unit, or a stroke and such a letter. -/
inductive Operation.Written : Operation → List Char → Prop
  | later {ds : List Char} {letter : Char} {u : TimeUnit} (digits : ∀ c ∈ ds, c.isDigit = true)
      (fits : amountOf ds ≤ maxAmount) (named : TimeUnit.ofChar? letter = some u) :
      Written (.shift (amountOf ds) u) ('+' :: (ds ++ [letter]))
  | earlier {ds : List Char} {letter : Char} {u : TimeUnit} (digits : ∀ c ∈ ds, c.isDigit = true)
      (fits : amountOf ds ≤ maxAmount) (named : TimeUnit.ofChar? letter = some u) :
      Written (.shift (-amountOf ds) u) ('-' :: (ds ++ [letter]))
  | rounded {letter : Char} {u : TimeUnit} (named : TimeUnit.ofChar? letter = some u) :
      Written (.round u) ['/', letter]

inductive Spelled : List Operation → List Char → Prop
  | nil : Spelled [] []
  | cons {op : Operation} {ops : List Operation} {first rest : List Char} (one : op.Written first)
      (others : Spelled ops rest) : Spelled (op :: ops) (first ++ rest)

theorem amount?_eq_some {ds : List Char} {n : Nat} :
    amount? ds = some n ↔ amountOf ds ≤ maxAmount ∧ n = amountOf ds := by
  unfold amount? amountOf
  split
  · have one : 1 ≤ maxAmount := by decide
    simp [one, eq_comm]
  · split
    · simp [*, eq_comm]
    · simp [*]

theorem Operation.written_iff {op : Operation} {s : List Char} : op.Written s ↔
    ∃ sign ds letter, (∀ c ∈ ds, c.isDigit = true) ∧ letter.isDigit = false ∧
      s = sign :: (ds ++ [letter]) ∧ operation? sign ds letter = some op := by
  constructor
  · intro written
    cases written with
    | @later ds letter u digits fits named =>
      have amount : amount? ds = some (amountOf ds) := amount?_eq_some.2 ⟨fits, rfl⟩
      exact ⟨'+', ds, letter, digits, (plain_of_ofChar? named).2, rfl, by
        simp [operation?, amount, named]⟩
    | @earlier ds letter u digits fits named =>
      have amount : amount? ds = some (amountOf ds) := amount?_eq_some.2 ⟨fits, rfl⟩
      exact ⟨'-', ds, letter, digits, (plain_of_ofChar? named).2, rfl, by
        simp [operation?, amount, named]⟩
    | @rounded letter u named =>
      exact ⟨'/', [], letter, List.forall_mem_nil _, (plain_of_ofChar? named).2, rfl, by
        simp [operation?, amount?, named]⟩
  · rintro ⟨sign, ds, letter, digits, -, rfl, read⟩
    simp only [operation?, Option.bind_eq_bind, Option.bind_eq_some_iff, amount?_eq_some] at read
    obtain ⟨amount, ⟨fits, rfl⟩, u, named, read⟩ := read
    split at read
    · cases read
      exact .later digits fits named
    · cases read
      exact .earlier digits fits named
    · split at read
      · rename_i none
        cases read
        subst none
        exact .rounded named
      · cases read
    · cases read

theorem operations?_eq_some {s : List Char} {ops : List Operation} :
    operations? s = some ops ↔ Spelled ops s := by
  constructor
  · intro read
    fun_induction operations? s generalizing ops with
    | case1 =>
      cases read
      exact .nil
    | case2 => cases read
    | case3 sign r unit rest found ih =>
      simp only [Option.bind_eq_bind, Option.bind_eq_some_iff] at read
      obtain ⟨first, one, others, more, same⟩ := read
      cases same
      have letter : unit.isDigit = false := by
        have head := List.head?_dropWhile_not Char.isDigit r
        rw [found] at head
        simpa using head
      have whole : sign :: r = (sign :: (r.takeWhile Char.isDigit ++ [unit])) ++ rest := by
        have parts := List.takeWhile_append_dropWhile (p := Char.isDigit) (l := r)
        rw [found] at parts
        simp [parts]
      have digits : ∀ c ∈ r.takeWhile Char.isDigit, c.isDigit = true :=
        List.all_eq_true.1 List.all_takeWhile
      rw [whole]
      exact .cons (Operation.written_iff.2 ⟨_, _, _, digits, letter, rfl, one⟩) (ih more)
  · intro spelled
    induction spelled with
    | nil => exact operations?_nil
    | @cons op ops first rest one others ih =>
      obtain ⟨sign, ds, letter, digits, other, rfl, read⟩ := Operation.written_iff.1 one
      have apart : (sign :: (ds ++ [letter])) ++ rest = sign :: (ds ++ letter :: rest) := by simp
      rw [apart, operations?_cons sign digits other, read, ih]
      rfl

theorem eval?_of_anchor? {s rest : List Char} (first : ∀ c ∈ s.head?, isBlank c = false)
    (last : ∀ c ∈ s.getLast?, isBlank c = false) (filled : s ≠ []) {now t : Instant}
    (anchored : anchor? now s = some (t, rest)) (up : Bool) :
    eval? (String.ofList s) now up = (operations? rest).bind (run up t) := by
  rw [eval?, String.toList_ofList, trim_eq_self first last, if_neg filled, anchored]
  rfl

theorem eval?_now {s : List Char} (last : ∀ c ∈ s.getLast?, isBlank c = false) (now : Instant)
    (up : Bool) : eval? (String.ofList ('n' :: 'o' :: 'w' :: s)) now up
      = (operations? s).bind (run up now) := by
  refine eval?_of_anchor? ?_ ?_ (List.cons_ne_nil _ _) ?_ up
  · rintro _ ⟨⟩
    rfl
  · cases s with
    | nil =>
      rintro _ ⟨⟩
      rfl
    | cons c s => simpa using last
  · simp [anchor?, after?]

theorem eval?_round {letter : Char} {u : TimeUnit} (named : TimeUnit.ofChar? letter = some u)
    (t : Instant) (up : Bool) : eval? ("now/".push letter) t up = round t u up := by
  have chars : "now/".push letter = String.ofList ('n' :: 'o' :: 'w' :: ['/', letter]) := by
    apply String.toList_inj.1
    rw [String.toList_push]
    exact String.toList_ofList.symm
  have spelled : Spelled [.round u] ['/', letter] := .cons (.rounded named) .nil
  rw [chars, eval?_now (by simp [plain_of_ofChar? named]), operations?_eq_some.2 spelled]
  simp [run, Operation.apply]

theorem eval?_absolute {front : List Char} {t : Instant} (read : ofText? front = some t)
    (first : ∀ c ∈ front.head?, isBlank c = false) {s : List Char}
    (last : ∀ c ∈ s.getLast?, isBlank c = false) (now : Instant) (up : Bool) :
    eval? (String.ofList (front ++ '|' :: '|' :: s)) now up = (operations? s).bind (run up t) := by
  have parted : cut? ['|', '|'] (front ++ '|' :: '|' :: s) = some (front, s) :=
    cut?_append_append ['|'] (bar_not_mem_of_ofText? read) s
  have anchored : anchor? now (front ++ '|' :: '|' :: s) = some (t, s) := by
    cases front with
    | nil => cases read
    | cons c front =>
      have other : 'n' ≠ c := by
        rintro rfl
        rw [ofText?_letter] at read
        cases read
      have absolute : after? ['n', 'o', 'w'] (c :: front ++ '|' :: '|' :: s) = none := if_neg other
      rw [anchor?, absolute, parted]
      simp [read]
  refine eval?_of_anchor? ?_ ?_ (by simp) anchored up
  · cases front with
    | nil => cases read
    | cons c front => exact first
  · cases s with
    | nil =>
      intro c hc
      obtain rfl : '|' = c := by simpa using hc
      rfl
    | cons c s => simpa using last

end MapLayer.DateMath
