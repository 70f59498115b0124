import MapLayer.Descriptor
import MapLayer.Proofs.Style.Stored

/-!
Descriptors as they are saved. Main statement: a saved descriptor is loaded as it was, and every member
that the model does not know stays in its place.
-/

namespace MapLayer

open Json

variable {v : Json}

namespace Column

theorem decodeCount_toNat (n : UInt32) : decodeCount (.int n.toNat) = .ok n := by
  have below := n.toNat_lt
  have inside : (0 : Int) ≤ n.toNat ∧ (n.toNat : Int) < 0x100000000 := by omega
  rw [decodeCount, if_pos inside, Int.toNat_natCast, UInt32.ofNat_toNat]

theorem decode_toJson (c : Column) : decode c.toJson = .ok c := by
  obtain ⟨fields, opened, found⟩ := decodeFields_ofMembers "a column" names
    [("name", .string c.name), ("localType", .string c.localType), ("type", .string c.columnType),
      ("nillable", .bool c.nillable), ("minOccurs", .int c.minOccurs.toNat),
      ("maxOccurs", .int c.maxOccurs.toNat)]
  rw [decode, toJson, opened]
  simp [Fields.required, Fields.orElse, found, Keyed.lastOf_cons, decodeString, decodeBool,
    decodeCount_toNat, bind, Except.bind, pure, Except.pure]

end Column

namespace Descriptor

def own (d : Descriptor) : List (String × Json) :=
  [("type", .string d.sourceType), ("baseUrl", .string d.baseUrl), ("layer", .string d.layer),
      ("name", .string d.name), ("timeColumn", .string d.timeColumn),
      ("geoColumn", .string d.geoColumn), ("nrt", .bool d.nrt)]
    ++ optionalMember "sldBody" Style.toJson d.style
    ++ optionalMember "tooltipProperties" ofStrings d.tooltipProperties
    ++ optionalMember "wfsColumns" (fun cs => .array (cs.map Column.toJson)) d.columns

theorem toJson_eq (d : Descriptor) : d.toJson = ofMembers (d.own ++ d.extra.entries) := rfl

theorem within_own (d : Descriptor) : Within names d.own := by
  simp [own, names]

theorem opened_of_decode {d : Descriptor} (h : decode v = .ok d) :
    ∃ fields, decodeOpen "a descriptor" names v = .ok (fields, d.extra)
      ∧ fields.optional "sldBody" Style.decode = .ok d.style := by
  simp only [decode, Outcome.bind_eq_ok, Outcome.pure_eq_ok] at h
  obtain ⟨⟨fields, extra⟩, opened, _, _, _, _, _, _, _, _, _, _, _, _, _, _, _, style, _, _, _, _,
    rfl⟩ := h
  exact ⟨fields, opened, style⟩

theorem decode_toJson {d : Descriptor} (h : decode v = .ok d) : decode d.toJson = .ok d := by
  obtain ⟨_, opened, style⟩ := opened_of_decode h
  obtain ⟨fields, opened, found⟩ :=
    decodeOpen_ofMembers "a descriptor" rfl d.within_own (unknown_of_decodeOpen opened)
  have style : decodeFound Style.decode (d.style.map Style.toJson) = .ok d.style := by
    refine decodeFound_map (fun s hs => ?_) nofun
    obtain ⟨u, read⟩ := of_optional style s hs
    exact Style.decode_toJson read
  have columns : decodeFound (decodeList Column.decode)
      (d.columns.map fun cs => .array (cs.map Column.toJson)) = .ok d.columns :=
    decodeFound_map (fun cs _ => decodeList_map fun c _ => c.decode_toJson) nofun
  simp [own, names, Keyed.lastOf_append, Keyed.lastOf_cons] at found
  rw [toJson_eq, decode, opened]
  simp [Fields.required, Fields.orElse, optional_eq, found, style, columns, decodeString,
    decodeBool, bind, Except.bind, pure, Except.pure]

theorem alike_style {d : Descriptor} (h : decode v = .ok d) :
    Alike Style.decode Style.toJson (d.toJson.below? [.member "sldBody"])
      (v.canonical.below? [.member "sldBody"]) := by
  obtain ⟨_, opened, style⟩ := opened_of_decode h
  have written : d.toJson.get? "sldBody" = d.style.map Style.toJson := by
    rw [toJson_eq, get?_ofMembers, lastOf_own (unknown_of_decodeOpen opened) (by decide)]
    simp [own, Keyed.lastOf_append, Keyed.lastOf_cons]
  rw [below?_single, below?_single, step?, step?, written]
  exact alike_optional opened (by decide) style

theorem get?_toJson {d : Descriptor} (h : decode v = .ok d) {k : String} (other : k ∉ names) :
    d.toJson.get? k = v.canonical.get? k := by
  obtain ⟨_, opened, -⟩ := opened_of_decode h
  rw [toJson_eq]
  exact get?_written opened rfl d.within_own other

/-- The records in a descriptor that keep unknown members. -/
inductive Place
  | descriptor
  | style
  | rule (i : ℕ)
  | symbolizer (i j : ℕ)

namespace Place

def path : Place → List Step
  | descriptor => []
  | style => [.member "sldBody"]
  | rule i => [.member "sldBody", .member "rules", .item i]
  | symbolizer i j =>
    [.member "sldBody", .member "rules", .item i, .member "symbolizers", .item j]

def symbolizerNames : String → List String
  | "Fill" => "kind" :: FillSymbolizer.names
  | "Line" => "kind" :: LineSymbolizer.names
  | "Mark" => "kind" :: MarkSymbolizer.names
  | "Text" => "kind" :: TextSymbolizer.names
  | _ => ["kind"]

/-- The member of a name in a place of a saved descriptor. -/
def member? (p : Place) (v : Json) (k : String) : Option Json := (v.below? p.path).bind (·.get? k)

/-- The names that the record in a place of a saved descriptor knows. -/
def known (p : Place) (v : Json) : List String :=
  match p with
  | descriptor => Descriptor.names
  | style => ["name", "rules"]
  | rule _ => ["name", "filter", "scaleDenominator", "symbolizers"]
  | symbolizer .. => match p.member? v "kind" with
    | some (.string kind) => symbolizerNames kind
    | _ => []

end Place

theorem alike_rule {d : Descriptor} (h : decode v = .ok d) (i : ℕ) :
    Alike StyleRule.decode StyleRule.toJson (d.toJson.below? (Place.rule i).path)
      (v.canonical.below? (Place.rule i).path) := by
  have inner := (alike_style h).below fun read => Style.alike_rules read i
  rwa [← below?_append, ← below?_append] at inner

theorem alike_symbolizer {d : Descriptor} (h : decode v = .ok d) (i j : ℕ) :
    Alike Symbolizer.decode Symbolizer.toJson (d.toJson.below? (Place.symbolizer i j).path)
      (v.canonical.below? (Place.symbolizer i j).path) := by
  have inner := (alike_rule h i).below fun read => StyleRule.alike_symbolizers read j
  rwa [← below?_append, ← below?_append] at inner

theorem symbolizerNames_kind (s : Symbolizer) : Place.symbolizerNames s.kind = s.known := by
  cases s <;> rfl

/-- In every place the members that the model does not know are the same in the saved descriptor as in the
value that it was loaded from. -/
theorem member?_toJson {d : Descriptor} (h : decode v = .ok d) (p : Place) {k : String}
    (other : k ∉ p.known v.canonical) : p.member? d.toJson k = p.member? v.canonical k := by
  cases p with
  | descriptor => exact get?_toJson h other
  | style => exact (alike_style h).get? fun read _ => Style.get?_toJson read other
  | rule i => exact (alike_rule h i).get? fun read _ => StyleRule.get?_toJson read other
  | symbolizer i j =>
    refine (alike_symbolizer h i j).get? fun {u s} read here => Symbolizer.get?_toJson read ?_
    have kind : (Place.symbolizer i j).member? v.canonical "kind" = some (.string s.kind) := by
      rw [Place.member?, here]
      exact (Symbolizer.opened_of_decode read).2
    rw [Place.known, kind] at other
    rwa [← symbolizerNames_kind]

/-- A saved descriptor is loaded as it was, and no member that the model does not know is lost, changed or
added in any place. -/
theorem saved_loaded {d : Descriptor} (h : decode v = .ok d) : decode d.toJson = .ok d
    ∧ ∀ (p : Place) (k : String), k ∉ p.known v.canonical →
      p.member? d.toJson k = p.member? v.canonical k :=
  ⟨decode_toJson h, fun p _ => member?_toJson h p⟩

/-- A saved descriptor with a style, a filter, columns and unknown members. -/
def rivers : Json := .object [("baseUrl", .string "https://maps.example/wms"),
  ("layer", .string "hydro:rivers"), ("name", .string "Rivers"), ("id", .string "l-7"),
  ("sldBody", .object [("name", .string "blue"), ("version", .int 2), ("rules", .array [.object [
    ("filter", .array [.string "&&", .array [.string ">=", .string "width", .int 10],
      .array [.string "!", .array [.string "==", .string "dry", .bool true]]]),
    ("scaleDenominator", .array [.int 1000]),
    ("symbolizers", .array [
      .object [("kind", .string "Line"), ("color", .string "#0000ff"), ("cap", .string "round")],
      .object [("kind", .string "Icon"), ("image", .string "pin.png")]]),
    ("editor", .object [("z", .int 1), ("a", .null)])]])]),
  ("wfsColumns", .array [.array [.string "width", .string "double"]])]

theorem saved_loaded_rivers : ∃ d, decode rivers = .ok d ∧ decode d.toJson = .ok d
    ∧ ∀ (p : Place) (k : String), k ∉ p.known rivers.canonical →
      p.member? d.toJson k = p.member? rivers.canonical k :=
  ⟨_, rfl, saved_loaded rfl⟩

end Descriptor

end MapLayer
