import MapLayer.Geometry.Wkt
import MapLayer.Proofs.Decimal.Finite
import MapLayer.Proofs.Json.Record

/-!
The GeoJSON form of geometries. Main statement: a geometry with finite coordinates is read back from its form,
so is what a document is read as, and a kind that is not understood is refused at any depth, by its name if
nothing before it is at fault.
-/

namespace MapLayer

/-- A value as a document has it: integers have 64 bits and other numbers are finite. -/
inductive Json.Proper : Json → Prop
  | null : Proper .null
  | bool (b : Bool) : Proper (.bool b)
  | int {n : Int} (least : -2 ^ 63 ≤ n) (most : n < 2 ^ 64) : Proper (.int n)
  | float {x : Float} (finite : x.isFinite = true) : Proper (.float x)
  | string (s : String) : Proper (.string s)
  | array {items : List Json} (each : ∀ v ∈ items, Proper v) : Proper (.array items)
  | object {members : List (String × Json)} (each : ∀ m ∈ members, Proper m.2) : Proper (.object members)

namespace Geometry

open Json

mutual

def coordinates : Geometry → List Float
  | .point p => p
  | .lineString ps | .multiPoint ps => ps.flatten
  | .polygon rs | .multiLineString rs => rs.flatten.flatten
  | .multiPolygon gs => gs.flatten.flatten.flatten
  | .collection members => coordinatesOf members
  | .feature g => coordinates g

def coordinatesOf : List Geometry → List Float
  | [] => []
  | g :: gs => coordinates g ++ coordinatesOf gs

end

def tag : Json → String
  | .object members => tagOf members
  | _ => "<missing>"

/-- Whether the kind a value claims to be of is understood. -/
def Understood (v : Json) : Prop := ∃ kind : GeometryKind, kind.name = tag v

/-- The geometry of a feature, null if it has none. -/
def geometryOf (members : List (String × Json)) : Json := (members.lookup "geometry").getD .null

def geometriesOf (members : List (String × Json)) : List Json :=
  ((members.lookup "geometries").bind array?).getD []

/-- A value below the features and collections of another, and the values that stand before it in document
order: the earlier members of each collection on the way down. -/
inductive Nested : Json → List Json → Json → Prop
  | here (v : Json) : Nested v [] v
  | feature {members : List (String × Json)} {before : List Json} {w : Json}
      (kind : tagOf members = GeometryKind.feature.name) (below : Nested (geometryOf members) before w) :
      Nested (.object members) before w
  | collection {members : List (String × Json)} {front back before : List Json} {v w : Json}
      (kind : tagOf members = GeometryKind.collection.name)
      (split : geometriesOf members = front ++ v :: back) (below : Nested v before w) :
      Nested (.object members) (front ++ before) w

section nesting

theorem ofName?_eq_some {name : String} {kind : GeometryKind} :
    GeometryKind.ofName? name = some kind ↔ kind.name = name := by
  constructor
  · intro found
    simpa using List.find?_some found
  · rintro rfl
    cases kind <;> rfl

theorem ofName?_eq_none {name : String} :
    GeometryKind.ofName? name = none ↔ ¬ ∃ kind : GeometryKind, kind.name = name := by
  rw [Option.eq_none_iff_forall_ne_some]
  simp only [ne_eq, ofName?_eq_some, not_exists]

variable {members : List (String × Json)} {v : Json}

theorem ofFeature_eq (members : List (String × Json)) : ofFeature members = ofJson (geometryOf members) := by
  induction members with
  | nil => rfl
  | cons m members ih =>
    obtain ⟨name, v⟩ := m
    rw [ofFeature, geometryOf, Keyed.lookup_cons]
    by_cases here : name = "geometry"
    · simp [here]
    · rw [if_neg here, if_neg (Ne.symm here), ih]
      rfl

theorem ofCollection_eq (members : List (String × Json)) :
    ofCollection members = ofItems (geometriesOf members) := by
  induction members with
  | nil => rfl
  | cons m members ih =>
    obtain ⟨name, v⟩ := m
    rw [geometriesOf, Keyed.lookup_cons]
    by_cases here : name = "geometries"
    · cases v <;> simp [ofCollection, here, array?, ofItems]
    · rw [if_neg (Ne.symm here)]
      cases v <;> simp only [ofCollection, if_neg here, ih] <;> rfl

theorem ofJson_of_not_understood (h : ¬ Understood v) : ofJson v = .error (.unsupportedGeometry (tag v)) := by
  cases v with
  | object members =>
    have unnamed : GeometryKind.ofName? (tagOf members) = none := ofName?_eq_none.2 h
    rw [ofJson, unnamed]
    rfl
  | _ => rfl

theorem ofJson_feature (kind : tagOf members = GeometryKind.feature.name) :
    ofJson (.object members) = feature <$> ofJson (geometryOf members) := by
  rw [ofJson, ofName?_eq_some.2 kind.symm, ← ofFeature_eq]

theorem ofJson_collection (kind : tagOf members = GeometryKind.collection.name) :
    ofJson (.object members) = collection <$> ofItems (geometriesOf members) := by
  rw [ofJson, ofName?_eq_some.2 kind.symm, ← ofCollection_eq]

theorem ofJson_leaf {kind : GeometryKind} (tagged : kind.name = tagOf members)
    (single : kind ≠ .feature) (listed : kind ≠ .collection) :
    ofJson (.object members) = ofLeaf kind members := by
  rw [ofJson, ofName?_eq_some.2 tagged]
  cases kind <;> first | rfl | contradiction

theorem mem_of_lookup {name : String} (found : members.lookup name = some v) : (name, v) ∈ members := by
  obtain ⟨front, back, rfl, -⟩ := List.lookup_eq_some_iff.1 found
  exact List.mem_append_right front List.mem_cons_self

theorem sizeOf_of_lookup {name : String} (found : members.lookup name = some v) :
    sizeOf v < sizeOf members := by
  have listed := List.sizeOf_lt_of_mem (mem_of_lookup found)
  simp only [Prod.mk.sizeOf_spec] at listed
  omega

theorem sizeOf_geometryOf (members : List (String × Json)) :
    sizeOf (geometryOf members) < sizeOf (Json.object members) := by
  rw [geometryOf, Json.object.sizeOf_spec]
  cases found : members.lookup "geometry" with
  | none => cases members <;> simp
  | some v =>
    have inside := sizeOf_of_lookup found
    rw [Option.getD_some]
    omega

theorem lookup_of_mem_geometriesOf (h : v ∈ geometriesOf members) :
    ∃ items, members.lookup "geometries" = some (.array items) ∧ v ∈ items := by
  rw [geometriesOf] at h
  cases found : members.lookup "geometries" with
  | none => simp [found] at h
  | some u =>
    cases u with
    | array items => exact ⟨items, rfl, by simpa [found, array?] using h⟩
    | _ => simp [found, array?] at h

theorem sizeOf_of_mem_geometriesOf (h : v ∈ geometriesOf members) :
    sizeOf v < sizeOf (Json.object members) := by
  obtain ⟨items, found, listed⟩ := lookup_of_mem_geometriesOf h
  have inside := sizeOf_of_lookup found
  have item := List.sizeOf_lt_of_mem listed
  rw [Json.array.sizeOf_spec] at inside
  rw [Json.object.sizeOf_spec]
  omega

/-- Values by how they are read. -/
theorem nesting_induction {motive : Json → Prop}
    (unknown : ∀ v, ¬ Understood v → motive v)
    (leaf : ∀ members (kind : GeometryKind), kind.name = tagOf members → kind ≠ .feature → kind ≠ .collection →
      motive (.object members))
    (feature : ∀ members, tagOf members = GeometryKind.feature.name → motive (geometryOf members) →
      motive (.object members))
    (collection : ∀ members, tagOf members = GeometryKind.collection.name →
      (∀ v ∈ geometriesOf members, motive v) → motive (.object members))
    (v : Json) : motive v := by
  by_cases understood : Understood v
  · cases v with
    | object members =>
      obtain ⟨kind, tagged⟩ := understood
      by_cases single : kind = .feature
      · subst single
        exact feature members tagged.symm
          (nesting_induction unknown leaf feature collection (geometryOf members))
      · by_cases listed : kind = .collection
        · subst listed
          exact collection members tagged.symm fun v _ =>
            nesting_induction unknown leaf feature collection v
        · exact leaf members kind tagged single listed
    | _ =>
      obtain ⟨kind, tagged⟩ := understood
      have missing : kind.name = "<missing>" := tagged
      cases kind <;> exact absurd missing (by decide)
  · exact unknown v understood
termination_by sizeOf v
decreasing_by
  · exact sizeOf_geometryOf members
  · exact sizeOf_of_mem_geometriesOf ‹_›

end nesting

section reading

variable {vs : List Json} {gs : List Geometry} {v : Json} {g : Geometry} {kind : GeometryKind}
  {members : List (String × Json)} {e : Failure}

theorem ofItems_eq_ok : ofItems vs = .ok gs ↔ List.Forall₂ (fun v g => ofJson v = .ok g) vs gs := by
  induction vs generalizing gs with
  | nil => cases gs <;> simp [ofItems]
  | cons v vs ih =>
    simp only [ofItems, Outcome.bind_eq_ok, Outcome.pure_eq_ok, ih, List.forall₂_cons_left_iff]
    constructor
    · rintro ⟨g, first, gs, others, rfl⟩
      exact ⟨g, gs, first, others, rfl⟩
    · rintro ⟨g, gs, first, others, rfl⟩
      exact ⟨g, first, gs, others, rfl⟩

theorem of_ofItems (h : ofItems vs = .ok gs) : ∀ v ∈ vs, ∃ g, ofJson v = .ok g := by
  rw [ofItems_eq_ok] at h
  induction h with
  | nil => exact List.forall_mem_nil _
  | cons first _ ih => exact List.forall_mem_cons.2 ⟨⟨_, first⟩, ih⟩

theorem ofItems_cons_of_ok (read : ofJson v = .ok g) : ofItems (v :: vs) = (g :: ·) <$> ofItems vs := by
  rw [ofItems, read]
  rfl

theorem ofItems_cons_of_error (refused : ofJson v = .error e) : ofItems (v :: vs) = .error e := by
  rw [ofItems, refused]
  rfl

theorem ofItems_append_of_error {front back : List Json} (fine : ∀ u ∈ front, ∃ g, ofJson u = .ok g)
    (refused : ofJson v = .error e) : ofItems (front ++ v :: back) = .error e := by
  induction front with
  | nil => exact ofItems_cons_of_error refused
  | cons u front ih =>
    obtain ⟨⟨g, read⟩, others⟩ := List.forall_mem_cons.1 fine
    rw [List.cons_append, ofItems_cons_of_ok read, ih others]
    rfl

theorem of_ofItems_eq_error (h : ofItems vs = .error e) : ∃ front v back, vs = front ++ v :: back ∧
    (∀ u ∈ front, ∃ g, ofJson u = .ok g) ∧ ofJson v = .error e := by
  induction vs with
  | nil => cases h
  | cons v vs ih =>
    cases read : ofJson v with
    | error e' =>
      rw [ofItems_cons_of_error read] at h
      cases h
      exact ⟨[], v, vs, rfl, List.forall_mem_nil _, read⟩
    | ok g =>
      rw [ofItems_cons_of_ok read, Outcome.map_eq_error] at h
      obtain ⟨front, u, back, rfl, fine, refused⟩ := ih h
      exact ⟨v :: front, u, back, rfl, List.forall_mem_cons.2 ⟨⟨g, read⟩, fine⟩, refused⟩

theorem ofLeaf_eq_ok : ofLeaf kind members = .ok g ↔
    ∃ v, members.lookup "coordinates" = some v ∧ ofCoordinates kind v = .ok g := by
  rw [← required_eq_ok, ofLeaf]
  split <;> rename_i read <;> simp [read]

theorem ofLeaf_ne_unsupported {t : String} : ofLeaf kind members ≠ .error (.unsupportedGeometry t) := by
  rw [ofLeaf]
  split <;> simp

end reading

section written

variable {α : Type} {kind : GeometryKind} {name : String} {v : Json}

theorem forall_mem_flatten {P : α → Prop} {ls : List (List α)} :
    (∀ x ∈ ls.flatten, P x) ↔ ∀ l ∈ ls, ∀ x ∈ l, P x := by
  simp only [List.mem_flatten]
  exact ⟨fun h l hl x hx => h x ⟨l, hl, hx⟩, fun h x ⟨l, hl, hx⟩ => h l hl x hx⟩

theorem decodeFloat_ofFloat {x : Float} : decodeFloat (Json.ofFloat x) = .ok x ↔ x.isFinite = true := by
  rw [Json.ofFloat]
  split <;> rename_i finite <;> simp [decodeFloat, finite]

theorem decodePosition_positionJson {p : Position} :
    decodePosition (positionJson p) = .ok p ↔ ∀ x ∈ p, x.isFinite = true := by
  rw [decodePosition, positionJson, decodeList_map_iff]
  simp only [decodeFloat_ofFloat]

theorem decodeList_positionsJson {ps : List Position} :
    decodeList decodePosition (positionsJson ps) = .ok ps ↔ ∀ x ∈ ps.flatten, x.isFinite = true := by
  rw [positionsJson, decodeList_map_iff]
  simp only [decodePosition_positionJson, forall_mem_flatten]

theorem decodeList_ringsJson {rs : List (List Position)} :
    decodeList (decodeList decodePosition) (ringsJson rs) = .ok rs ↔
      ∀ x ∈ rs.flatten.flatten, x.isFinite = true := by
  rw [ringsJson, decodeList_map_iff]
  simp only [decodeList_positionsJson, forall_mem_flatten]

theorem decodeList_polygons {gs : List (List (List Position))} :
    decodeList (decodeList (decodeList decodePosition)) (.array (gs.map ringsJson)) = .ok gs ↔
      ∀ x ∈ gs.flatten.flatten.flatten, x.isFinite = true := by
  rw [decodeList_map_iff]
  simp only [decodeList_ringsJson, forall_mem_flatten]

theorem tagOf_tagged (other : name ≠ "type") : tagOf [(name, v), ("type", .string kind.name)] = kind.name := by
  rw [tagOf, Keyed.lookup_cons, if_neg (Ne.symm other)]
  rfl

theorem ofJson_tagged {make : α → Geometry} {read : Json → Decoded α} {a : α}
    (single : kind ≠ .feature) (listed : kind ≠ .collection)
    (reads : ofCoordinates kind v = make <$> read v) (injective : Function.Injective make) :
    ofJson (tagged kind "coordinates" v) = .ok (make a) ↔ read v = .ok a := by
  rw [tagged, ofJson_leaf (tagOf_tagged (by decide)).symm single listed, ofLeaf_eq_ok]
  simp [reads, Outcome.map_eq_ok, injective.eq_iff]

mutual

/-- What is written of a geometry is read as that geometry exactly if its numbers are finite. -/
theorem ofJson_toJson : (g : Geometry) → (ofJson g.toJson = .ok g ↔ ∀ x ∈ g.coordinates, x.isFinite = true)
  | .point p => by
    rw [toJson, coordinates, ← decodePosition_positionJson]
    exact ofJson_tagged (by decide) (by decide) rfl fun _ _ => point.inj
  | .lineString ps => by
    rw [toJson, coordinates, ← decodeList_positionsJson]
    exact ofJson_tagged (by decide) (by decide) rfl fun _ _ => lineString.inj
  | .polygon rs => by
    rw [toJson, coordinates, ← decodeList_ringsJson]
    exact ofJson_tagged (by decide) (by decide) rfl fun _ _ => polygon.inj
  | .multiPoint ps => by
    rw [toJson, coordinates, ← decodeList_positionsJson]
    exact ofJson_tagged (by decide) (by decide) rfl fun _ _ => multiPoint.inj
  | .multiLineString ls => by
    rw [toJson, coordinates, ← decodeList_ringsJson]
    exact ofJson_tagged (by decide) (by decide) rfl fun _ _ => multiLineString.inj
  | .multiPolygon gs => by
    rw [toJson, coordinates, ← decodeList_polygons]
    exact ofJson_tagged (by decide) (by decide) rfl fun _ _ => multiPolygon.inj
  | .collection members => by
    rw [toJson, coordinates, tagged, ofJson_collection (tagOf_tagged (by decide)), ← ofItems_membersJson]
    simp [Outcome.map_eq_ok, geometriesOf, array?]
  | .feature g => by
    rw [toJson, coordinates, tagged, ofJson_feature (tagOf_tagged (by decide)), ← ofJson_toJson]
    simp [Outcome.map_eq_ok, geometryOf]

theorem ofItems_membersJson : (gs : List Geometry) →
    (ofItems (membersJson gs) = .ok gs ↔ ∀ x ∈ coordinatesOf gs, x.isFinite = true)
  | [] => iff_of_true rfl nofun
  | g :: gs => by
    rw [membersJson, ofItems_eq_ok, List.forall₂_cons, ← ofItems_eq_ok, coordinatesOf, List.forall_mem_append]
    exact and_congr (ofJson_toJson g) (ofItems_membersJson gs)

end

end written

section found

variable {α : Type} {v : Json} {kind : GeometryKind} {members : List (String × Json)}

theorem proper_of_lookup {name : String} (proper : (Json.object members).Proper)
    (found : members.lookup name = some v) : v.Proper := by
  cases proper with
  | object each => exact each _ (mem_of_lookup found)

theorem proper_geometryOf (proper : (Json.object members).Proper) : (geometryOf members).Proper := by
  rw [geometryOf]
  cases found : members.lookup "geometry" with
  | none => exact .null
  | some v => exact proper_of_lookup proper found

theorem proper_of_mem_geometriesOf (proper : (Json.object members).Proper) (h : v ∈ geometriesOf members) :
    v.Proper := by
  obtain ⟨items, found, listed⟩ := lookup_of_mem_geometriesOf h
  cases proper_of_lookup proper found with
  | array each => exact each v listed

theorem finite_of_decodeFloat {x : Float} (proper : v.Proper) (h : decodeFloat v = .ok x) :
    x.isFinite = true := by
  cases proper with
  | int least most =>
    cases h
    exact Decimal.isFinite_ofInt (by omega)
  | float finite =>
    cases h
    exact finite
  | _ => cases h

theorem of_decodeList {P : α → Prop} {read : Json → Decoded α} {as : List α}
    (each : ∀ {v a}, v.Proper → read v = .ok a → P a) (proper : v.Proper)
    (h : decodeList read v = .ok as) : ∀ a ∈ as, P a := by
  cases proper with
  | array proper =>
    rw [decodeList, decodeItems_eq_ok] at h
    induction h with
    | nil => exact List.forall_mem_nil _
    | cons first _ ih =>
      obtain ⟨here, later⟩ := List.forall_mem_cons.1 proper
      exact List.forall_mem_cons.2 ⟨each here first, ih later⟩
  | _ => cases h

theorem finite_of_decodePosition {p : Position} (proper : v.Proper) (h : decodePosition v = .ok p) :
    ∀ x ∈ p, x.isFinite = true :=
  of_decodeList finite_of_decodeFloat proper h

theorem finite_of_ofCoordinates {g : Geometry} (proper : v.Proper) (h : ofCoordinates kind v = .ok g) :
    ∀ x ∈ g.coordinates, x.isFinite = true := by
  cases kind with
  | point =>
    obtain ⟨p, read, rfl⟩ := Outcome.map_eq_ok.1 h
    exact finite_of_decodePosition proper read
  | lineString | multiPoint =>
    obtain ⟨ps, read, rfl⟩ := Outcome.map_eq_ok.1 h
    simp only [coordinates, forall_mem_flatten]
    exact of_decodeList finite_of_decodePosition proper read
  | polygon | multiLineString =>
    obtain ⟨rs, read, rfl⟩ := Outcome.map_eq_ok.1 h
    simp only [coordinates, forall_mem_flatten]
    exact of_decodeList (of_decodeList finite_of_decodePosition) proper read
  | multiPolygon =>
    obtain ⟨gs, read, rfl⟩ := Outcome.map_eq_ok.1 h
    simp only [coordinates, forall_mem_flatten]
    exact of_decodeList (of_decodeList (of_decodeList finite_of_decodePosition)) proper read
  | collection | feature => cases h

theorem finite_of_ofItems {vs : List Json} {gs : List Geometry} (h : ofItems vs = .ok gs)
    (each : ∀ v ∈ vs, ∀ g, ofJson v = .ok g → ∀ x ∈ g.coordinates, x.isFinite = true) :
    ∀ x ∈ coordinatesOf gs, x.isFinite = true := by
  rw [ofItems_eq_ok] at h
  induction h with
  | nil => exact List.forall_mem_nil _
  | cons first _ ih =>
    obtain ⟨here, later⟩ := List.forall_mem_cons.1 each
    rw [coordinatesOf, List.forall_mem_append]
    exact ⟨here _ first, ih later⟩

theorem finite_of_ofJson {g : Geometry} (proper : v.Proper) (h : ofJson v = .ok g) :
    ∀ x ∈ g.coordinates, x.isFinite = true := by
  induction v using nesting_induction generalizing g with
  | unknown v strange =>
    rw [ofJson_of_not_understood strange] at h
    cases h
  | leaf members kind tagged single listed =>
    rw [ofJson_leaf tagged single listed, ofLeaf_eq_ok] at h
    obtain ⟨v, found, read⟩ := h
    exact finite_of_ofCoordinates (proper_of_lookup proper found) read
  | feature members tagged ih =>
    rw [ofJson_feature tagged, Outcome.map_eq_ok] at h
    obtain ⟨g, read, rfl⟩ := h
    rw [coordinates]
    exact ih (proper_geometryOf proper) read
  | collection members tagged ih =>
    rw [ofJson_collection tagged, Outcome.map_eq_ok] at h
    obtain ⟨gs, read, rfl⟩ := h
    exact finite_of_ofItems read fun v listed g => ih v listed (proper_of_mem_geometriesOf proper listed)

end found

section strange

variable {v w : Json} {before : List Json}

theorem ofJson_of_nested (nested : Nested v before w) (strange : ¬ Understood w)
    (fine : ∀ u ∈ before, ∃ g, ofJson u = .ok g) : ofJson v = .error (.unsupportedGeometry (tag w)) := by
  induction nested with
  | here w => exact ofJson_of_not_understood strange
  | feature kind _ ih => rw [ofJson_feature kind, Outcome.map_eq_error, ih strange fine]
  | collection kind split _ ih =>
    obtain ⟨earlier, inside⟩ := List.forall_mem_append.1 fine
    rw [ofJson_collection kind, split, Outcome.map_eq_error]
    exact ofItems_append_of_error earlier (ih strange inside)

/-- A kind that is not understood is reported for the first value that is of none. -/
theorem nested_of_ofJson {t : String} (h : ofJson v = .error (.unsupportedGeometry t)) :
    ∃ before w, Nested v before w ∧ ¬ Understood w ∧ tag w = t ∧ ∀ u ∈ before, ∃ g, ofJson u = .ok g := by
  induction v using nesting_induction with
  | unknown v strange =>
    rw [ofJson_of_not_understood strange] at h
    cases h
    exact ⟨[], v, .here v, strange, rfl, List.forall_mem_nil _⟩
  | leaf members kind tagged single listed =>
    -- coordinates have faults of their own, which name no kind
    rw [ofJson_leaf tagged single listed] at h
    exact absurd h ofLeaf_ne_unsupported
  | feature members tagged ih =>
    rw [ofJson_feature tagged, Outcome.map_eq_error] at h
    obtain ⟨before, w, below, rest⟩ := ih h
    exact ⟨before, w, .feature tagged below, rest⟩
  | collection members tagged ih =>
    rw [ofJson_collection tagged, Outcome.map_eq_error] at h
    obtain ⟨front, v, back, split, earlier, refused⟩ := of_ofItems_eq_error h
    have listed : v ∈ geometriesOf members := by simp [split]
    obtain ⟨before, w, below, strange, named, fine⟩ := ih v listed refused
    exact ⟨front ++ before, w, .collection tagged split below, strange, named,
      List.forall_mem_append.2 ⟨earlier, fine⟩⟩

/-- Whatever is nested in a value that is read is read itself. -/
theorem ofJson_nested (nested : Nested v before w) {g : Geometry} (h : ofJson v = .ok g) :
    ∃ g, ofJson w = .ok g := by
  induction nested generalizing g with
  | here w => exact ⟨g, h⟩
  | feature kind _ ih =>
    rw [ofJson_feature kind, Outcome.map_eq_ok] at h
    obtain ⟨g, read, -⟩ := h
    exact ih read
  | @collection members front back before v w kind split _ ih =>
    rw [ofJson_collection kind, split, Outcome.map_eq_ok] at h
    obtain ⟨gs, read, -⟩ := h
    have listed : v ∈ front ++ v :: back := by simp
    obtain ⟨g, read⟩ := of_ofItems read v listed
    exact ih read

end strange

/-- Geometries survive their form, and a kind that is not understood is refused at any depth: by its name if
whatever stands before it is read, and a name is reported in no other case. -/
theorem ofJson_faithful :
    (∀ g : Geometry, (∀ x ∈ g.coordinates, x.isFinite = true) ↔ ofJson g.toJson = .ok g) ∧
    (∀ v g, v.Proper → ofJson v = .ok g →
      ofJson g.toJson = .ok g ∧ wktOfJson g.toJson = wktOfJson v) ∧
    (∀ v t, ofJson v = .error (.unsupportedGeometry t) ↔ ∃ before w, Nested v before w ∧
      ¬ Understood w ∧ tag w = t ∧ ∀ u ∈ before, ∃ g, ofJson u = .ok g) ∧
    ∀ v before w, Nested v before w → ¬ Understood w → ∃ failure, ofJson v = .error failure := by
  refine ⟨fun g => (ofJson_toJson g).symm, fun v g proper read => ?_, fun v t => ⟨nested_of_ofJson, ?_⟩,
    fun v before w nested strange => ?_⟩
  · have again : ofJson g.toJson = .ok g := (ofJson_toJson g).2 (finite_of_ofJson proper read)
    exact ⟨again, by rw [wktOfJson, wktOfJson, again, read]⟩
  · rintro ⟨before, w, nested, strange, rfl, fine⟩
    exact ofJson_of_nested nested strange fine
  · cases result : ofJson v with
    | error failure => exact ⟨failure, rfl⟩
    | ok g =>
      obtain ⟨h, read⟩ := ofJson_nested nested result
      rw [ofJson_of_not_understood strange] at read
      cases read

theorem ofJson_faithful_circle :
    let spot := Json.object [("coordinates", .array [.int 1, .float 2.5]), ("type", .string "Point")]
    let circle := Json.object [("radius", .string "5km"), ("type", .string "Circle")]
    let both := Json.object [("geometries", .array [spot, circle]), ("type", .string "GeometryCollection")]
    let whole := Json.object [("geometry", both), ("type", .string "Feature")]
    (spot.Proper ∧ ofJson spot = .ok (.point [Float.ofInt 1, 2.5]) ∧
      ofJson (Geometry.point [Float.ofInt 1, 2.5]).toJson = .ok (.point [Float.ofInt 1, 2.5]) ∧
      wktOfJson (Geometry.point [Float.ofInt 1, 2.5]).toJson = wktOfJson spot) ∧
    Nested whole [spot] circle ∧ ¬ Understood circle ∧
      ofJson whole = .error (.unsupportedGeometry "Circle") ∧ ∃ failure, ofJson whole = .error failure := by
  intro spot circle both whole
  have proper : spot.Proper :=
    .object (by simpa using ⟨.array (by simpa using ⟨.int (by decide) (by decide), .float (by decide)⟩), .string _⟩)
  have read : ofJson spot = .ok (.point [Float.ofInt 1, 2.5]) := rfl
  have split : geometriesOf [("geometries", .array [spot, circle]), ("type", .string "GeometryCollection")]
      = [spot] ++ circle :: [] := rfl
  have nested : Nested whole [spot] circle := .feature rfl (.collection rfl split (.here circle))
  have strange : ¬ Understood circle := by
    rintro ⟨kind, named⟩
    cases kind <;> exact absurd named (by decide)
  obtain ⟨-, back, named, refused⟩ := ofJson_faithful
  exact ⟨⟨proper, read, back spot _ proper read⟩, nested, strange,
    (named whole "Circle").2 ⟨[spot], circle, nested, strange, rfl, by simpa using ⟨_, read⟩⟩,
    refused whole [spot] circle nested strange⟩

end Geometry

end MapLayer
