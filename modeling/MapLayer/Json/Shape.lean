/-! Which parts of a JSON value a record is read from. What is left out is not looked at. -/

namespace MapLayer.Json

inductive Shape
  | whole
  | list (item : Shape)
  /-- The fields of a record and nothing else. -/
  | record (fields : List (String × Shape))
  /-- The fields of a record, and all of its other members. -/
  | openRecord (fields : List (String × Shape))

namespace Shape

def plain (names : List String) : Shape := .record (names.map (·, .whole))

def member? (name : String) : Shape → Option Shape
  | record fields => fields.lookup name
  | openRecord fields => some ((fields.lookup name).getD .whole)
  | whole | list _ => some .whole

/-- What is read of an item. A record may be an array of its fields. -/
def item (position : Nat) : Shape → Shape
  | list item => item
  | record fields => (fields[position]?.map (·.2)).getD .whole
  | whole | openRecord _ => .whole

end Shape

end MapLayer.Json
