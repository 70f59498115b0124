import MapLayer.Keyed

/-!
JSON values. The members of an object keep their order and repetitions, as a document writes them;
`canonical` sorts them and keeps the last member of each name.
-/

namespace MapLayer

/-- A JSON value. Integers and other numbers are different values. -/
inductive Json
  | null
  | bool (b : Bool)
  | int (n : Int)
  | float (x : Float)
  | string (s : String)
  | array (items : List Json)
  | object (members : List (String × Json))
deriving Inhabited

namespace Json

mutual

/-- The value with the members of every object sorted by name, the last of each name kept. -/
def canonical : Json → Json
  | .array items => .array (canonicalItems items)
  | .object members => .object (canonicalMembers members).entries
  | .null => .null
  | .bool b => .bool b
  | .int n => .int n
  | .float x => .float x
  | .string s => .string s

def canonicalItems : List Json → List Json
  | [] => []
  | v :: vs => canonical v :: canonicalItems vs

def canonicalMembers : List (String × Json) → Keyed Json
  | [] => .empty
  | (k, v) :: rest =>
    let later := canonicalMembers rest
    if later.contains k then later else later.put k (canonical v)

end

mutual

/-- Equality of values in canonical form. Numbers are compared as numbers. -/
def same : Json → Json → Bool
  | .null, .null => true
  | .bool a, .bool b => a == b
  | .int a, .int b => a == b
  | .float a, .float b => a == b
  | .string a, .string b => a == b
  | .array a, .array b => sameItems a b
  | .object a, .object b => sameMembers a b
  | _, _ => false

def sameItems : List Json → List Json → Bool
  | [], [] => true
  | a :: as, b :: bs => same a b && sameItems as bs
  | _, _ => false

def sameMembers : List (String × Json) → List (String × Json) → Bool
  | [], [] => true
  | (j, a) :: as, (k, b) :: bs => j == k && same a b && sameMembers as bs
  | _, _ => false

end

instance : BEq Json := ⟨same⟩

def get? (v : Json) (name : String) : Option Json :=
  match v with
  | .object members => members.lookup name
  | _ => none

def string? : Json → Option String
  | .string s => some s
  | _ => none

def array? : Json → Option (List Json)
  | .array items => some items
  | _ => none

def ofKeyed (m : Keyed Json) : Json := .object m.entries

def ofMembers (members : List (String × Json)) : Json := ofKeyed (.ofList members)

def ofStrings (texts : List String) : Json := .array (texts.map .string)

/-- The number, or null for a float that is not finite. -/
def ofFloat (x : Float) : Json := if x.isFinite then .float x else .null

def ofOption {α : Type} (f : α → Json) : Option α → Json
  | some a => f a
  | none => .null

end Json

end MapLayer
