import MapLayer.Failure
import MapLayer.Json.Printer

/-! Free-text query expressions as trees, and their JSON form. -/

namespace MapLayer

/-- A query expression. Functions are known by name. -/
inductive QueryNode
  | function (name : String) (arguments : List QueryNode)
  | literal (text : String)
  | wildcard (text : String)

namespace QueryNode

/-- What stands for any characters inside a wildcard. -/
def anyMark : String := "@kuery-wildcard@"

/-- The text of a value: a text as it is, anything else as JSON. -/
def scalarText : Json → String
  | .string s => s
  | v => v.text

def unsupported (what : String) : Failure := .unsupportedExpression what

def textMember? (name : String) (members : List (String × Json)) : Option String :=
  (members.lookup name).bind Json.string?

def valueText (members : List (String × Json)) : String :=
  ((members.lookup "value").map scalarText).getD ""

mutual

def ofJson : Json → Outcome QueryNode
  | .object members =>
    match (textMember? "type" members).getD "" with
    | "function" => match textMember? "function" members with
      | some name => function name <$> ofArguments members
      | none => .error (unsupported "function node without a name")
    | "literal" => .ok (literal (valueText members))
    | "wildcard" => .ok (wildcard (valueText members))
    | other => .error (unsupported ("node type '" ++ other ++ "'"))
  | _ => .error (unsupported "node type ''")

/-- The arguments among the members of a function. Anything but a list counts as none. -/
def ofArguments : List (String × Json) → Outcome (List QueryNode)
  | [] => .ok []
  | (name, .array items) :: rest =>
    if name = "arguments" then ofItems items else ofArguments rest
  | (name, _) :: rest => if name = "arguments" then .ok [] else ofArguments rest

def ofItems : List Json → Outcome (List QueryNode)
  | [] => .ok []
  | v :: vs => do
    let node ← ofJson v
    return node :: (← ofItems vs)

end

end QueryNode

end MapLayer
