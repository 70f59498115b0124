import MapLayer.Proofs.DateMath.Language
import MapLayer.Proofs.DateMath.Route

/-!
Cuts by bytes and numbers of 64 bits, where a cut inside of a character and a number that is too large break
an evaluation off. Main statements: operations are cut between two characters, and what is refused for its
size would not be in range.
-/

namespace MapLayer.DateMath

open Instant Text

/-- Why there is no value: the expression has none, or a cut or a number broke the evaluation off. -/
inductive Stop
  | undefined
  | cut
  | overflow
deriving DecidableEq, Repr

def demand {α : Type} : Option α → Except Stop α
  | some a => .ok a
  | none => .error .undefined

/-- The two parts of a text before and behind a number of bytes. -/
def cutAt : Nat → List Char → Except Stop (List Char × List Char)
  | 0, s => .ok ([], s)
  | _ + 1, [] => .error .cut
  | n + 1, c :: s =>
    if c.utf8Size ≤ n + 1 then
      (cutAt (n + 1 - c.utf8Size) s).map fun (front, back) => (c :: front, back)
    else .error .cut

/-- The sign, the digits and the letter that a text starts with, and the text behind them. -/
def scan (s : List Char) : Except Stop (Char × List Char × Char × List Char) := do
  let sign ← demand s.head?
  let (_, s) ← cutAt sign.utf8Size s
  let (ds, s) ← cutAt (s.takeWhile Char.isDigit).length s
  let letter ← demand s.head?
  let (_, rest) ← cutAt letter.utf8Size s
  return (sign, ds, letter, rest)

theorem cutAt_append (front back : List Char) :
    cutAt (front.map Char.utf8Size).sum (front ++ back) = .ok (front, back) := by
  induction front with
  | nil => simp [cutAt]
  | cons c front ih =>
    have pos := c.utf8Size_pos
    obtain ⟨n, size⟩ := Nat.exists_eq_add_of_le' pos
    rw [List.map_cons, List.sum_cons, List.cons_append]
    have bytes : c.utf8Size + (front.map Char.utf8Size).sum
        = n + (front.map Char.utf8Size).sum + 1 := by omega
    have left : n + (front.map Char.utf8Size).sum + 1 - c.utf8Size
        = (front.map Char.utf8Size).sum := by omega
    rw [bytes, cutAt, if_pos (by omega), left, ih]
    rfl

theorem cutAt_utf8Size (c : Char) (s : List Char) : cutAt c.utf8Size (c :: s) = .ok ([c], s) := by
  have cut := cutAt_append [c] s
  rwa [List.map_singleton, List.sum_singleton] at cut

theorem utf8Size_of_isDigit {c : Char} (digit : c.isDigit = true) : c.utf8Size = 1 := by
  simp only [Char.isDigit, Bool.and_eq_true, decide_eq_true_eq] at digit
  rw [Char.utf8Size_eq_one_iff]
  exact UInt32.le_trans digit.2 (by decide)

/-- Digits have a byte each, so there are as many bytes of them. -/
theorem cutAt_digits (s : List Char) : cutAt (s.takeWhile Char.isDigit).length s
    = .ok (s.takeWhile Char.isDigit, s.dropWhile Char.isDigit) := by
  have sizes : ((s.takeWhile Char.isDigit).map Char.utf8Size).sum
      = (s.takeWhile Char.isDigit).length := by
    have each : (s.takeWhile Char.isDigit).map Char.utf8Size
        = List.replicate (s.takeWhile Char.isDigit).length 1 := by
      refine List.eq_replicate_iff.2 ⟨List.length_map _, fun n hn => ?_⟩
      obtain ⟨c, hc, rfl⟩ := List.mem_map.1 hn
      exact utf8Size_of_isDigit (List.all_eq_true.1 List.all_takeWhile c hc)
    rw [each, List.sum_replicate_nat, Nat.mul_one]
  have cut := cutAt_append (s.takeWhile Char.isDigit) (s.dropWhile Char.isDigit)
  rwa [sizes, List.takeWhile_append_dropWhile] at cut

/-- Every cut lies between two characters. -/
theorem scan_cons (sign : Char) (r : List Char) : scan (sign :: r)
    = match r.dropWhile Char.isDigit with
      | [] => .error .undefined
      | letter :: rest => .ok (sign, r.takeWhile Char.isDigit, letter, rest) := by
  change (cutAt sign.utf8Size (sign :: r) >>= _) = _
  rw [cutAt_utf8Size]
  change (cutAt _ r >>= _) = _
  rw [cutAt_digits]
  cases r.dropWhile Char.isDigit with
  | nil => rfl
  | cons letter rest =>
    change (cutAt letter.utf8Size (letter :: rest) >>= _) = _
    rw [cutAt_utf8Size]
    rfl

def Fits (n : Int) : Prop := -(maxAmount : Int) - 1 ≤ n ∧ n ≤ maxAmount

instance (n : Int) : Decidable (Fits n) := inferInstanceAs (Decidable (_ ∧ _))

/-- The opposite of a number. The least one has none. -/
def negate (n : Int) : Except Stop Int := if Fits (-n) then .ok (-n) else .error .overflow

/-- Seconds, unless they are too many milliseconds. -/
def duration? (seconds : Int) : Option Int := if Fits (seconds * 1000) then some seconds else none

/-- Months, unless their number has more than 32 bits. -/
def months? (n : Int) : Option Int := if n.natAbs < 4294967296 then some n else none

/-- The instant some units later, where seconds and months are not too many. -/
def shiftWithin (t : Instant) (amount : Int) : TimeUnit → Option Instant
  | .second => (duration? amount).bind t.addSeconds?
  | .minute => (duration? (amount * 60)).bind t.addSeconds?
  | .hour => (duration? (amount * 3600)).bind t.addSeconds?
  | .day => (duration? (amount * 86400)).bind t.addSeconds?
  | .week => (duration? (amount * 604800)).bind t.addSeconds?
  | .month => (months? amount).bind t.addMonths?
  | .year => (months? (amount * 12)).bind t.addMonths?

def roundWithin (t : Instant) (unit : TimeUnit) (up : Bool) : Option Instant :=
  if up then do (← shiftWithin (← startOf t unit) 1 unit).previousMilli?
  else startOf t unit

theorem months?_bind {t : Instant} (h : t.InCalendar) (n : Int) :
    (months? n).bind t.addMonths? = t.addMonths? n := by
  unfold months?
  split
  · rfl
  · rename_i many
    have valid := Date.isValid_addMonths (Date.isValid_ofNumber t.day) n
    obtain ⟨low, high, -⟩ := Date.ofNumber_month t.day
    have here := Date.inRange_iff_yearOf.1 h.inRange
    rw [addMonths?_eq_kept?, kept?, if_neg]
    · rfl
    · intro kept
      have there := Date.inRange_iff_yearOf.1 kept
      have year : Date.yearOf (t.monthsLater n).day
          = (Date.yearOf t.day * 12 + ((Date.ofNumber t.day).month - 1 : Nat) + n) / 12 :=
        Date.yearOf_number valid
      have span : Date.minYear = -262143 ∧ Date.maxYear = 262142 := ⟨rfl, rfl⟩
      omega

theorem duration?_bind {t : Instant} (h : t.InCalendar) (n : Int) :
    (duration? n).bind t.addSeconds? = t.addSeconds? n := by
  unfold duration?
  split
  · rfl
  · rename_i many
    have most : (maxAmount : Int) = 9223372036854775807 := by decide
    have time := h.second_lt
    have length : secondsPerDay = 86400 := rfl
    have here := Kept.bounds h.inRange
    rw [addSeconds?_eq_kept? h, kept?, if_neg]
    · rfl
    · intro kept
      have there := Kept.bounds kept
      simp only [secondsLater, atSecond, Fits, seconds] at there many
      split at there
      · omega
      · split at there
        · dsimp only at there
          split at there <;> omega
        · dsimp only at there
          omega

theorem shiftWithin_eq {t : Instant} (h : t.InCalendar) (amount : Int) (u : TimeUnit) :
    shiftWithin t amount u = shift t amount u := by
  cases u with
  | month => exact months?_bind h _
  | year => exact months?_bind h _
  | _ => exact duration?_bind h _

theorem roundWithin_eq {t : Instant} (h : t.InCalendar) (u : TimeUnit) (up : Bool) :
    roundWithin t u up = round t u up := by
  cases started : startOf t u with
  | none => simp [roundWithin, round, started]
  | some start =>
    have calendar : start.InCalendar := (ofClock?_eq_some.1 (startOf_eq h u ▸ started)).1
    simp only [roundWithin, round, started]
    change (if up = true then (shiftWithin start 1 u).bind _ else _)
      = if up = true then (shift start 1 u).bind _ else _
    rw [shiftWithin_eq calendar]

theorem negate_of_amount? {ds : List Char} {n : Nat} (read : amount? ds = some n) :
    negate n = .ok (-n) := by
  obtain ⟨fits, rfl⟩ := amount?_eq_some.1 read
  rw [negate, if_pos]
  unfold Fits
  omega

end MapLayer.DateMath
