import MapLayer.Proofs.DateMath.Checked

/-!
Date expressions worked out with every cut and every number checked. Main statements: nothing breaks the
evaluation off, and an expression has a value exactly if its operations are spelled and lead over instants in
range.
-/

namespace MapLayer.DateMath

open Instant Text

def perform (up : Bool) (t : Instant) (sign : Char) (ds : List Char) (letter : Char) :
    Except Stop Instant := do
  let amount ← demand (amount? ds)
  let unit ← demand (TimeUnit.ofChar? letter)
  match sign with
  | '+' => demand (shiftWithin t amount unit)
  | '-' => demand (shiftWithin t (← negate amount) unit)
  | '/' => if ds = [] then demand (roundWithin t unit up) else .error .undefined
  | _ => .error .undefined

theorem perform_eq {t : Instant} (h : t.InCalendar) (up : Bool) (sign : Char) (ds : List Char)
    (letter : Char) : perform up t sign ds letter
      = demand ((operation? sign ds letter).bind (Operation.apply up t)) := by
  unfold perform operation?
  cases read : amount? ds with
  | none => rfl
  | some amount =>
    cases TimeUnit.ofChar? letter with
    | none => rfl
    | some u =>
      change (match sign with
        | '+' => demand (shiftWithin t amount u)
        | '-' => negate amount >>= fun n => demand (shiftWithin t n u)
        | '/' => if ds = [] then demand (roundWithin t u up) else .error .undefined
        | _ => .error .undefined) = demand (Option.bind (match sign with
          | '+' => some (.shift amount u)
          | '-' => some (.shift (-amount) u)
          | '/' => if ds = [] then some (.round u) else none
          | _ => none) (Operation.apply up t))
      split
      · rw [shiftWithin_eq h]
        rfl
      · rw [negate_of_amount? read]
        change demand (shiftWithin t (-amount) u) = _
        rw [shiftWithin_eq h]
        rfl
      · rw [roundWithin_eq h]
        split <;> rfl
      · rfl

/-- The operations of a text, each worked out before the next one is looked at. -/
def evaluate (up : Bool) (t : Instant) (s : List Char) : Except Stop Instant :=
  match s with
  | [] => .ok t
  | c :: r =>
    match _h : scan (c :: r) with
    | .error e => .error e
    | .ok (sign, ds, letter, rest) => do evaluate up (← perform up t sign ds letter) rest
termination_by s.length
decreasing_by
  rw [scan_cons] at _h
  have shorter := (List.dropWhile_sublist Char.isDigit (l := r)).length_le
  split at _h
  · cases _h
  · rename_i found
    cases _h
    rw [found] at shorter
    simp only [List.length_cons] at *
    omega

theorem evaluate_nil (up : Bool) (t : Instant) : evaluate up t [] = .ok t := by rw [evaluate]

theorem evaluate_cons (up : Bool) (t : Instant) (sign : Char) (r : List Char) :
    evaluate up t (sign :: r) = match r.dropWhile Char.isDigit with
      | [] => .error .undefined
      | letter :: rest =>
        perform up t sign (r.takeWhile Char.isDigit) letter >>= (evaluate up · rest) := by
  have scanned := scan_cons sign r
  cases found : r.dropWhile Char.isDigit with
  | nil =>
    rw [found] at scanned
    rw [evaluate]
    split
    · rename_i other
      cases scanned.symm.trans other
      rfl
    · rename_i other
      cases scanned.symm.trans other
  | cons letter rest =>
    rw [found] at scanned
    rw [evaluate]
    split
    · rename_i other
      cases scanned.symm.trans other
    · rename_i other
      cases scanned.symm.trans other
      rfl

/-- The operations are worked out as if all of them had been read before. -/
theorem evaluate_eq {t : Instant} (h : t.InCalendar) (up : Bool) (s : List Char) :
    evaluate up t s = demand ((operations? s).bind (run up t)) := by
  fun_induction operations? s generalizing t with
  | case1 => exact evaluate_nil up t
  | case2 sign r none =>
    rw [evaluate_cons, none]
    rfl
  | case3 sign r unit rest found ih =>
    rw [evaluate_cons, found]
    change perform up t sign (r.takeWhile Char.isDigit) unit >>= (evaluate up · rest) = _
    rw [perform_eq h]
    cases operation? sign (r.takeWhile Char.isDigit) unit with
    | none => rfl
    | some op =>
      -- an operation without a result leaves none, whatever stands behind it
      have parted : ((operations? rest).bind fun ops => some (op :: ops)).bind (run up t)
          = (op.apply up t).bind fun t' => (operations? rest).bind (run up t') := by
        cases operations? rest with
        | none => exact (Option.bind_fun_none _).symm
        | some ops => rfl
      change demand (op.apply up t) >>= (evaluate up · rest)
        = demand (((operations? rest).bind fun ops => some (op :: ops)).bind (run up t))
      rw [parted]
      cases applied : op.apply up t with
      | none => rfl
      | some t' =>
        obtain ⟨-, kept, rfl⟩ := (Operation.apply_eq_some h op).1 applied
        exact ih (Operation.inCalendar_result h kept)

def evalWithin (expr : String) (now : Instant) (up : Bool) : Except Stop Instant := do
  let s := trim expr.toList
  if s = [] then .error .undefined
  else
    let (t, rest) ← demand (anchor? now s)
    evaluate up t rest

/-- No cut and no number breaks the evaluation off. -/
theorem evalWithin_eq {now : Instant} (h : now.InCalendar) (expr : String) (up : Bool) :
    evalWithin expr now up = demand (eval? expr now up) := by
  unfold evalWithin eval?
  dsimp only
  split
  · rfl
  · cases anchored : anchor? now (trim expr.toList) with
    | none => rfl
    | some parts =>
      obtain ⟨t, rest⟩ := parts
      exact evaluate_eq (inCalendar_of_anchor? h anchored) up rest

/-- A text spells operations that lead from one instant to another, over instants in range. -/
def Leads (up : Bool) (t : Instant) (s : List Char) (r : Instant) : Prop :=
  ∃ ops, Spelled ops s ∧ (∀ x ∈ route up t ops, x.Kept) ∧ r = destination up t ops

theorem bind_run_eq_some {t : Instant} (h : t.InCalendar) {up : Bool} {s : List Char} {r : Instant} :
    (operations? s).bind (run up t) = some r ↔ Leads up t s r := by
  simp only [Option.bind_eq_some_iff, operations?_eq_some, run_eq_some h, Leads]

/-- An expression has a value exactly if operations are spelled behind its anchor and lead over instants in
range, from the first operation to the last, and the value is where they lead. Nothing breaks its evaluation off.
An anchor is `now`, or an instant and two bars. -/
theorem eval?_eq_some_iff_leads {now : Instant} (h : now.InCalendar) (up : Bool) {s : List Char}
    (last : ∀ c ∈ s.getLast?, isBlank c = false) :
    (∀ r, eval? (String.ofList ('n' :: 'o' :: 'w' :: s)) now up = some r ↔ Leads up now s r) ∧
    (∀ front t, ofText? front = some t → (∀ c ∈ front.head?, isBlank c = false) →
      ∀ r, eval? (String.ofList (front ++ '|' :: '|' :: s)) now up = some r ↔ Leads up t s r) ∧
    ∀ expr, evalWithin expr now up = demand (eval? expr now up) := by
  refine ⟨fun r => ?_, fun front t read first r => ?_, fun expr => evalWithin_eq h expr up⟩
  · rw [eval?_now last, bind_run_eq_some h]
  · rw [eval?_absolute read first last, bind_run_eq_some (dated_ofText? front t read)]

/-- A month after the end of January, up to the end of that day and two hours back. -/
theorem eval?_eq_some_iff_leads_leapDay :
    let now : Instant := ⟨Date.number ⟨2024, 1, 31⟩, 45045, 500000000⟩
    let s := ['+', 'M', '/', 'd', '-', '2', 'h']
    let r : Instant := ⟨Date.number ⟨2024, 2, 29⟩, 79199, 999000000⟩
    let front := ['2', '0', '2', '2', '-', '1', '2', '-', '3', '1']
    let t := startOfDay (Date.number ⟨2022, 12, 31⟩)
    let r' : Instant := ⟨Date.number ⟨2023, 1, 31⟩, 79199, 999000000⟩
    (now.InCalendar ∧ (∀ c ∈ s.getLast?, isBlank c = false) ∧ ofText? front = some t ∧
      ∀ c ∈ front.head?, isBlank c = false) ∧
    eval? "now+M/d-2h" now true = some r ∧ eval? "2022-12-31||+M/d-2h" now true = some r' ∧
    evalWithin "now+M/d-2h" now true = .ok r := by
  intro now s r front t r'
  have calendar : now.InCalendar := ⟨by decide, by decide⟩
  have last : ∀ c ∈ s.getLast?, isBlank c = false := by
    rintro _ ⟨⟩
    rfl
  have read : ofText? front = some t := by decide +kernel
  have first : ∀ c ∈ front.head?, isBlank c = false := by
    rintro _ ⟨⟩
    rfl
  have spelled : Spelled [.shift 1 .month, .round .day, .shift (-2) .hour] s :=
    .cons (.later (List.forall_mem_nil _) (by decide) rfl)
      (.cons (.rounded rfl) (.cons (@Operation.Written.earlier ['2'] _ _ (by decide) (by decide) rfl) .nil))
  obtain ⟨fromNow, fromInstant, whole⟩ := eval?_eq_some_iff_leads calendar true last
  have value : eval? "now+M/d-2h" now true = some r :=
    (fromNow r).2 ⟨_, spelled, by decide +kernel, by decide +kernel⟩
  have value' : eval? "2022-12-31||+M/d-2h" now true = some r' :=
    (fromInstant front t read first r').2 ⟨_, spelled, by decide +kernel, by decide +kernel⟩
  exact ⟨⟨calendar, last, read, first⟩, value, value', (whole _).trans (congrArg demand value)⟩

end MapLayer.DateMath
