import MapLayer.Query.Basic
import MapLayer.Text.Split

/-! The filter text of a query expression. -/

namespace MapLayer.QueryNode

def arity (function : String) (expected got : Nat) : Failure :=
  unsupported ("'" ++ function ++ s!"' expects {expected} argument(s), got {got}")

/-- A wildcard as a pattern match, with the space before it. -/
def like (text : String) : String :=
  " LIKE '" ++ String.ofList (Text.replace anyMark.toList ['%'] text.toList) ++ "'"

def fieldName : QueryNode → Outcome String
  | literal name | wildcard name => .ok name
  | function name _ => .error (unsupported ("function '" ++ name ++ "' used as a field"))

def rangeSign : QueryNode → Outcome String
  | literal "gt" => .ok ">"
  | literal "lt" => .ok "<"
  | literal "gte" => .ok ">="
  | literal "lte" => .ok "<="
  | literal other => .error (unsupported ("range operator '" ++ other ++ "'"))
  | _ => .error (unsupported "range operator must be a literal")

/-- A literal in quotes; anything else as it is. -/
def quoted (node : QueryNode) (text : String) : String :=
  match node with
  | literal _ => "'" ++ text ++ "'"
  | _ => text

/-- What stands between a field and a value. A wildcard brings its own operator. -/
def equality : QueryNode → String
  | wildcard _ => ""
  | _ => "="

mutual

/-- The filter text. Of several faults the first is reported. -/
def cql : QueryNode → Outcome String
  | literal text => .ok text
  | wildcard text => .ok (like text)
  | function "and" operands => junction " AND " <$> cqlEach operands
  | function "or" operands => junction " OR " <$> cqlEach operands
  | function "not" [operand] => do return "NOT (" ++ (← cql operand) ++ ")"
  | function "not" operands => .error (arity "not" 1 operands.length)
  | function "is" [field, value] => do
    let name ← cql field
    let text ← cql value
    return name ++ equality value ++ quoted value text
  | function "is" operands => .error (arity "is" 2 operands.length)
  | function "range" [field, operator, value] => do
    let sign ← rangeSign operator
    let name ← fieldName field
    let text ← cql value
    return name ++ " " ++ sign ++ " " ++ quoted value text
  | function "range" operands => .error (arity "range" 3 operands.length)
  | function "exists" (field :: _) => do return (← fieldName field) ++ " IS NOT NULL"
  | function "exists" [] => .error (arity "exists" 1 0)
  | function other _ => .error (unsupported ("function '" ++ other ++ "'"))

def cqlEach : List QueryNode → Outcome (List String)
  | [] => .ok []
  | node :: nodes => do
    let text ← cql node
    return text :: (← cqlEach nodes)

def junction (operator : String) (operands : List String) : String :=
  "(" ++ operator.intercalate operands ++ ")"

end

end MapLayer.QueryNode
