import MapLayer.Json.Printer

/-!
Reading records out of JSON values. A record is an object, or an array of its fields in order with
trailing fields left out. A known field may not be given twice; unknown fields are ignored, or kept
by an open record, which is always an object.
-/

namespace MapLayer.Json

inductive Mismatch
  | missing (field : String)
  | repeated (field : String)
  | unexpected (found : Json) (expected : String)
  | tooLong (length : Nat) (expected : String)
  | unknownVariant (found : String)
  | refused (reason : String)

/-- What a value is, in the words of an error. -/
def describe : Json → String
  | .null => "null"
  | .bool b => s!"boolean \x60{b}\x60"
  | .int n => s!"integer \x60{n}\x60"
  | .float x => s!"floating point \x60{String.ofList (numberText x)}\x60"
  | .string s => s!"string {String.ofList (quote s)}"
  | .array _ => "sequence"
  | .object _ => "map"

def Mismatch.message : Mismatch → String
  | missing field => s!"missing field \x60{field}\x60"
  | repeated field => s!"duplicate field \x60{field}\x60"
  | unexpected found expected => s!"invalid type: {found.describe}, expected {expected}"
  | tooLong length expected => s!"invalid length {length}, expected {expected}"
  | unknownVariant found => s!"unknown variant \x60{found}\x60"
  | refused reason => reason

abbrev Decoded (α : Type) := Except Mismatch α

def decodeString : Json → Decoded String
  | .string s => .ok s
  | v => .error (.unexpected v "a string")

def decodeBool : Json → Decoded Bool
  | .bool b => .ok b
  | v => .error (.unexpected v "a boolean")

def decodeFloat : Json → Decoded Float
  | .int n => .ok (Float.ofInt n)
  | .float x => .ok x
  | v => .error (.unexpected v "f64")

/-- Only integers from 0 to 2^32 - 1. -/
def decodeCount : Json → Decoded UInt32
  | .int n =>
    if 0 ≤ n ∧ n < 0x100000000 then .ok (UInt32.ofNat n.toNat) else .error (.unexpected (.int n) "u32")
  | v => .error (.unexpected v "u32")

def decodeItems {α : Type} (f : Json → Decoded α) : List Json → Decoded (List α)
  | [] => .ok []
  | v :: vs => do
    let a ← f v
    return a :: (← decodeItems f vs)

def decodeList {α : Type} (f : Json → Decoded α) : Json → Decoded (List α)
  | .array items => decodeItems f items
  | v => .error (.unexpected v "a sequence")

def decodeOption {α : Type} (f : Json → Decoded α) : Json → Decoded (Option α)
  | .null => .ok none
  | v => some <$> f v

abbrev Fields := List (String × Json)

/-- A name that is given more than once. -/
def repeated? (names : List String) (members : Fields) : Option String :=
  names.find? fun name => 1 < members.countP (·.1 == name)

def decodeFields (what : String) (names : List String) : Json → Decoded Fields
  | .object members => match repeated? names members with
    | some name => .error (.repeated name)
    | none => .ok members
  | .array items =>
    if names.length < items.length then .error (.tooLong items.length what)
    else .ok (names.zip items)
  | v => .error (.unexpected v what)

/-- The fields of an open record, and its unknown members. -/
def decodeOpen (what : String) (names : List String) : Json → Decoded (Fields × Keyed Json)
  | .object members => match repeated? names members with
    | some name => .error (.repeated name)
    | none => .ok (members, canonicalMembers (members.filter fun m => m.1 ∉ names))
  | v => .error (.unexpected v what)

namespace Fields

variable {α : Type}

def required (fields : Fields) (name : String) (f : Json → Decoded α) : Decoded α :=
  match fields.lookup name with
  | some v => f v
  | none => .error (.missing name)

def orElse (fields : Fields) (name : String) (absent : α) (f : Json → Decoded α) : Decoded α :=
  match fields.lookup name with
  | some v => f v
  | none => .ok absent

def optional (fields : Fields) (name : String) (f : Json → Decoded α) : Decoded (Option α) :=
  fields.orElse name none (decodeOption f)

end Fields

/-- A member, left out when there is no value. -/
def optionalMember {α : Type} (name : String) (f : α → Json) : Option α → List (String × Json)
  | some a => [(name, f a)]
  | none => []

end MapLayer.Json
