import MapLayer.Json.Decode

/-! The attribute filters of styles, written as nested arrays with the operator in front. -/

namespace MapLayer

inductive Comparison
  | equal
  | notEqual
  | less
  | lessOrEqual
  | greater
  | greaterOrEqual
  | like
deriving DecidableEq, Repr

namespace Comparison

def symbol : Comparison → String
  | equal => "=="
  | notEqual => "!="
  | less => "<"
  | lessOrEqual => "<="
  | greater => ">"
  | greaterOrEqual => ">="
  | like => "*="

def all : List Comparison :=
  [equal, notEqual, less, lessOrEqual, greater, greaterOrEqual, like]

def ofSymbol? (s : String) : Option Comparison :=
  all.find? (·.symbol == s)

end Comparison

inductive StyleFilter
  | comparison (operator : Comparison) (property : String) (value : Json)
  | and (filters : List StyleFilter)
  | or (filters : List StyleFilter)
  | not (filter : StyleFilter)

namespace StyleFilter

mutual

/-- The filter of an array, or what is wrong with it. -/
def ofJson : Json → Except String StyleFilter
  | .array [] => .error "empty filter array"
  | .array (.string symbol :: operands) =>
    match symbol with
    | "&&" => and <$> ofItems operands
    | "||" => or <$> ofItems operands
    | "!" => match operands with
      | [operand] => not <$> ofJson operand
      | _ => .error "negation takes exactly one filter"
    | symbol => match Comparison.ofSymbol? symbol with
      | none => .error ("unknown filter operator '" ++ symbol ++ "'")
      | some operator => match operands with
        | [.string property, value] => .ok (comparison operator property value)
        | _ => .error ("comparison '" ++ symbol ++ "' takes a property name and a value")
  | .array (v :: _) => .error s!"filter operator must be a string, found {v.text}"
  | v => .error s!"expected a filter array, found {v.text}"

def ofItems : List Json → Except String (List StyleFilter)
  | [] => .ok []
  | v :: vs => do
    let f ← ofJson v
    return f :: (← ofItems vs)

end

mutual

def toJson : StyleFilter → Json
  | comparison operator property value =>
    .array [.string operator.symbol, .string property, value]
  | and filters => .array (.string "&&" :: itemsJson filters)
  | or filters => .array (.string "||" :: itemsJson filters)
  | not filter => .array [.string "!", toJson filter]

def itemsJson : List StyleFilter → List Json
  | [] => []
  | f :: fs => toJson f :: itemsJson fs

end

def decode (v : Json) : Json.Decoded StyleFilter :=
  (ofJson v.canonical).mapError .refused

end StyleFilter

end MapLayer
