/-! What can go wrong between a map and its layer services, and how it is told. -/

namespace MapLayer

inductive Failure
  | serviceUnreachable (url reason : String)
  | noData (what : String)
  | unsupportedGeometry (kind : String)
  | unsupportedExpression (node : String)
  | badQuery (reason : String)
  | invalidParameter (param message : String)
  | malformedXml (reason : String)
  | internal (reason : String)
deriving DecidableEq, Repr

namespace Failure

def message : Failure → String
  | serviceUnreachable url reason => s!"Unable to access {url}: {reason}"
  | noData what => s!"No data found: {what}"
  | unsupportedGeometry kind => s!"Unsupported geometry kind: {kind}"
  | unsupportedExpression node => s!"Unsupported expression node: {node}"
  | badQuery reason => s!"Invalid query expression: {reason}"
  | invalidParameter param message => "Invalid parameter value for '" ++ param ++ "': " ++ message
  | malformedXml reason => s!"Malformed XML response: {reason}"
  | internal reason => s!"Internal error: {reason}"

/-- Whether the user is told in a notification; the others are faults of the caller. -/
def isUserFacing : Failure → Bool
  | serviceUnreachable .. | noData _ | malformedXml _ | badQuery _ => true
  | _ => false

end Failure

abbrev Outcome (α : Type) := Except Failure α

namespace Outcome

variable {ε α β : Type}

theorem bind_eq_ok {x : Except ε α} {f : α → Except ε β} {b : β} :
    x >>= f = .ok b ↔ ∃ a, x = .ok a ∧ f a = .ok b := by
  cases x with
  | error e => simp [bind, Except.bind]
  | ok a => simp [bind, Except.bind]

theorem map_eq_ok {x : Except ε α} {f : α → β} {b : β} :
    f <$> x = .ok b ↔ ∃ a, x = .ok a ∧ f a = b := by
  cases x with
  | error e => simp [Functor.map, Except.map]
  | ok a => simp [Functor.map, Except.map]

theorem map_eq_error {x : Except ε α} {f : α → β} {e : ε} : f <$> x = .error e ↔ x = .error e := by
  cases x with
  | error e' => simp [Functor.map, Except.map]
  | ok a => simp [Functor.map, Except.map]

theorem pure_eq_ok {a b : α} : (pure a : Except ε α) = .ok b ↔ a = b := by
  simp [pure, Except.pure]

end Outcome

end MapLayer
