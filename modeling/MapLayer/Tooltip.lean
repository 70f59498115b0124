import MapLayer.Response.FeatureGroups

/-! What is shown of a clicked feature. -/

namespace MapLayer

structure Tooltip where
  name : String
  properties : List KeyPair
deriving DecidableEq, Repr

namespace Tooltip

def find? (key : String) (pairs : List KeyPair) : Option KeyPair :=
  pairs.find? (·.key == key)

/-- The tooltip of a feature. A list of keys, unless it is empty, chooses the attributes and their
order. -/
def ofGroup (name : String) (group : FeatureGroup) (allowlist : Option (List String)) : Tooltip :=
  match allowlist with
  | some (key :: keys) => ⟨name, (key :: keys).filterMap (find? · group)⟩
  | _ => ⟨name, group⟩

def get? (t : Tooltip) (key : String) : Option String :=
  (find? key t.properties).map (·.value)

def toJson (t : Tooltip) : Json :=
  .ofMembers [("name", .string t.name), ("properties", .array (t.properties.map KeyPair.toJson))]

end Tooltip

end MapLayer
