import MapLayer.Proofs.Json.Record
import MapLayer.Style.Json

/-!
Symbolizers as they are stored. Main statements: what is written of a symbolizer is read as the same one,
and it has the unknown members of the value that it was read from.
-/

namespace MapLayer

open Json

section symbolizers

variable {v : Json}

@[simp] theorem decodeFound_numbers (x : Option (List Float)) :
    decodeFound (decodeList decodeFloat) (x.map numbersJson) = .ok x :=
  decodeFound_map (fun _ _ => decodeList_map fun _ _ => rfl) nofun

namespace FillSymbolizer

def own (s : FillSymbolizer) (kind : Json) : List (String × Json) :=
  ("kind", kind) :: ({ s with extra := {} } : FillSymbolizer).members

theorem members_eq (s : FillSymbolizer) (kind : Json) :
    ("kind", kind) :: s.members = s.own kind ++ s.extra.entries := by
  simp [own, members]

theorem within_own (s : FillSymbolizer) (kind : Json) : Within ("kind" :: names) (s.own kind) := by
  simp [own, members, names]

theorem opened_of_decode {s : FillSymbolizer} (h : decode v = .ok s) :
    ∃ fields, decodeOpen "a fill" ("kind" :: names) v = .ok (fields, s.extra) := by
  simp only [decode, Outcome.bind_eq_ok, Outcome.pure_eq_ok] at h
  obtain ⟨⟨fields, extra⟩, opened, _, _, _, _, _, _, _, _, _, _, _, _, rfl⟩ := h
  exact ⟨fields, opened⟩

theorem decode_members {s : FillSymbolizer} (unknown : Unknown ("kind" :: names) s.extra)
    (kind : Json) : decode (ofMembers (("kind", kind) :: s.members)) = .ok s := by
  obtain ⟨fields, opened, found⟩ :=
    decodeOpen_ofMembers "a fill" (s.members_eq kind) (s.within_own kind) unknown
  simp [names, own, members, Keyed.lastOf_append, Keyed.lastOf_cons] at found
  simp [decode, opened, optional_eq, found, bind, Except.bind, pure, Except.pure]

end FillSymbolizer

namespace LineSymbolizer

def own (s : LineSymbolizer) (kind : Json) : List (String × Json) :=
  ("kind", kind) :: ({ s with extra := {} } : LineSymbolizer).members

theorem members_eq (s : LineSymbolizer) (kind : Json) :
    ("kind", kind) :: s.members = s.own kind ++ s.extra.entries := by
  simp [own, members]

theorem within_own (s : LineSymbolizer) (kind : Json) : Within ("kind" :: names) (s.own kind) := by
  simp [own, members, names]

theorem opened_of_decode {s : LineSymbolizer} (h : decode v = .ok s) :
    ∃ fields, decodeOpen "a line" ("kind" :: names) v = .ok (fields, s.extra) := by
  simp only [decode, Outcome.bind_eq_ok, Outcome.pure_eq_ok] at h
  obtain ⟨⟨fields, extra⟩, opened, _, _, _, _, _, _, _, _, rfl⟩ := h
  exact ⟨fields, opened⟩

theorem decode_members {s : LineSymbolizer} (unknown : Unknown ("kind" :: names) s.extra)
    (kind : Json) : decode (ofMembers (("kind", kind) :: s.members)) = .ok s := by
  obtain ⟨fields, opened, found⟩ :=
    decodeOpen_ofMembers "a line" (s.members_eq kind) (s.within_own kind) unknown
  simp [names, own, members, Keyed.lastOf_append, Keyed.lastOf_cons] at found
  simp [decode, opened, optional_eq, found, bind, Except.bind, pure, Except.pure]

end LineSymbolizer

namespace MarkSymbolizer

def own (s : MarkSymbolizer) (kind : Json) : List (String × Json) :=
  ("kind", kind) :: ({ s with extra := {} } : MarkSymbolizer).members

theorem members_eq (s : MarkSymbolizer) (kind : Json) :
    ("kind", kind) :: s.members = s.own kind ++ s.extra.entries := by
  simp [own, members]

theorem within_own (s : MarkSymbolizer) (kind : Json) : Within ("kind" :: names) (s.own kind) := by
  simp [own, members, names]

theorem opened_of_decode {s : MarkSymbolizer} (h : decode v = .ok s) :
    ∃ fields, decodeOpen "a mark" ("kind" :: names) v = .ok (fields, s.extra) := by
  simp only [decode, Outcome.bind_eq_ok, Outcome.pure_eq_ok] at h
  obtain ⟨⟨fields, extra⟩, opened, _, _, _, _, _, _, _, _, _, _, _, _, _, _, rfl⟩ := h
  exact ⟨fields, opened⟩

theorem decode_members {s : MarkSymbolizer} (unknown : Unknown ("kind" :: names) s.extra)
    (kind : Json) : decode (ofMembers (("kind", kind) :: s.members)) = .ok s := by
  obtain ⟨fields, opened, found⟩ :=
    decodeOpen_ofMembers "a mark" (s.members_eq kind) (s.within_own kind) unknown
  simp [names, own, members, Keyed.lastOf_append, Keyed.lastOf_cons] at found
  simp [decode, opened, optional_eq, found, bind, Except.bind, pure, Except.pure]

end MarkSymbolizer

namespace TextSymbolizer

def own (s : TextSymbolizer) (kind : Json) : List (String × Json) :=
  ("kind", kind) :: ({ s with extra := {} } : TextSymbolizer).members

theorem members_eq (s : TextSymbolizer) (kind : Json) :
    ("kind", kind) :: s.members = s.own kind ++ s.extra.entries := by
  simp [own, members]

theorem within_own (s : TextSymbolizer) (kind : Json) : Within ("kind" :: names) (s.own kind) := by
  simp [own, members, names]

theorem opened_of_decode {s : TextSymbolizer} (h : decode v = .ok s) :
    ∃ fields, decodeOpen "a text" ("kind" :: names) v = .ok (fields, s.extra) := by
  simp only [decode, Outcome.bind_eq_ok, Outcome.pure_eq_ok] at h
  obtain ⟨⟨fields, extra⟩, opened, _, _, _, _, _, _, _, _, _, _, _, _, _, _, _, _, rfl⟩ := h
  exact ⟨fields, opened⟩

theorem decode_members {s : TextSymbolizer} (unknown : Unknown ("kind" :: names) s.extra)
    (kind : Json) : decode (ofMembers (("kind", kind) :: s.members)) = .ok s := by
  obtain ⟨fields, opened, found⟩ :=
    decodeOpen_ofMembers "a text" (s.members_eq kind) (s.within_own kind) unknown
  simp [names, own, members, Keyed.lastOf_append, Keyed.lastOf_cons] at found
  simp [decode, opened, optional_eq, found, bind, Except.bind, pure, Except.pure]

end TextSymbolizer

namespace Symbolizer

/-- The names of the members that a symbolizer knows. -/
def known : Symbolizer → List String
  | fill _ => "kind" :: FillSymbolizer.names
  | line _ => "kind" :: LineSymbolizer.names
  | mark _ => "kind" :: MarkSymbolizer.names
  | text _ => "kind" :: TextSymbolizer.names
  | icon _ | raster _ => ["kind"]

def extra : Symbolizer → Keyed Json
  | fill s => s.extra
  | line s => s.extra
  | mark s => s.extra
  | text s => s.extra
  | icon members | raster members => members

def own (s : Symbolizer) : List (String × Json) :=
  match s with
  | fill f => f.own (.string s.kind)
  | line l => l.own (.string s.kind)
  | mark m => m.own (.string s.kind)
  | text t => t.own (.string s.kind)
  | icon _ | raster _ => [("kind", .string s.kind)]

theorem members_eq (s : Symbolizer) :
    ("kind", .string s.kind) :: s.members = s.own ++ s.extra.entries := by
  cases s with
  | fill s => exact s.members_eq _
  | line s => exact s.members_eq _
  | mark s => exact s.members_eq _
  | text s => exact s.members_eq _
  | icon members => rfl
  | raster members => rfl

theorem within_own (s : Symbolizer) : Within s.known s.own := by
  cases s with
  | fill s => exact s.within_own _
  | line s => exact s.within_own _
  | mark s => exact s.within_own _
  | text s => exact s.within_own _
  | icon members => simp [known, own]
  | raster members => simp [known, own]

/-- What is known of a value that a symbolizer is read from. -/
theorem opened_of_decode {s : Symbolizer} (h : decode v = .ok s) :
    (∃ what fields, decodeOpen what s.known v = .ok (fields, s.extra))
      ∧ v.canonical.get? "kind" = some (.string s.kind) := by
  simp only [decode, Outcome.bind_eq_ok] at h
  obtain ⟨⟨fields, rest⟩, opened, kind, required, h⟩ := h
  have found : v.canonical.get? "kind" = some (.string kind) := by
    rw [get?_known opened (by decide)]
    obtain ⟨u, there, read⟩ := required_eq_ok.1 required
    obtain rfl := decodeString_eq_ok.1 read
    rw [there]
    rfl
  rw [found]
  split at h
  · obtain ⟨f, read, rfl⟩ := Outcome.map_eq_ok.1 h
    exact ⟨⟨_, FillSymbolizer.opened_of_decode read⟩, rfl⟩
  · obtain ⟨l, read, rfl⟩ := Outcome.map_eq_ok.1 h
    exact ⟨⟨_, LineSymbolizer.opened_of_decode read⟩, rfl⟩
  · obtain ⟨m, read, rfl⟩ := Outcome.map_eq_ok.1 h
    exact ⟨⟨_, MarkSymbolizer.opened_of_decode read⟩, rfl⟩
  · obtain ⟨t, read, rfl⟩ := Outcome.map_eq_ok.1 h
    exact ⟨⟨_, TextSymbolizer.opened_of_decode read⟩, rfl⟩
  · obtain rfl := Outcome.pure_eq_ok.1 h
    exact ⟨⟨_, fields, opened⟩, rfl⟩
  · obtain rfl := Outcome.pure_eq_ok.1 h
    exact ⟨⟨_, fields, opened⟩, rfl⟩
  · cases h

theorem lastOf_kind {s : Symbolizer} (unknown : Unknown s.known s.extra) :
    Keyed.lastOf "kind" (("kind", .string s.kind) :: s.members) = some (.string s.kind) := by
  rw [members_eq, lastOf_own unknown (by cases s <;> exact List.mem_cons_self)]
  cases s <;> simp [own, FillSymbolizer.own, FillSymbolizer.members, LineSymbolizer.own,
    LineSymbolizer.members, MarkSymbolizer.own, MarkSymbolizer.members, TextSymbolizer.own,
    TextSymbolizer.members, Keyed.lastOf_append, Keyed.lastOf_cons]

theorem decode_toJson {s : Symbolizer} (h : decode v = .ok s) : decode s.toJson = .ok s := by
  obtain ⟨⟨_, _, opened⟩, -⟩ := opened_of_decode h
  have unknown := unknown_of_decodeOpen opened
  have required : Fields.required (Keyed.ofList (("kind", .string s.kind) :: s.members)).entries
      "kind" decodeString = .ok s.kind :=
    required_eq_ok.2 ⟨_, (Keyed.get?_ofList _ _).trans (lastOf_kind unknown), rfl⟩
  -- the kind is read first, from the members of all kinds alike
  rw [decode, toJson, ofMembers, decodeOpen_ofKeyed]
  dsimp only [bind, Except.bind]
  rw [required]
  cases s with
  | fill f => exact Outcome.map_eq_ok.2 ⟨f, FillSymbolizer.decode_members unknown _, rfl⟩
  | line l => exact Outcome.map_eq_ok.2 ⟨l, LineSymbolizer.decode_members unknown _, rfl⟩
  | mark m => exact Outcome.map_eq_ok.2 ⟨m, MarkSymbolizer.decode_members unknown _, rfl⟩
  | text t => exact Outcome.map_eq_ok.2 ⟨t, TextSymbolizer.decode_members unknown _, rfl⟩
  | icon members =>
    exact congrArg (fun m => (.ok (icon m) : Decoded Symbolizer))
      (unknown_ofList (members_eq _) (within_own (icon members)) unknown)
  | raster members =>
    exact congrArg (fun m => (.ok (raster m) : Decoded Symbolizer))
      (unknown_ofList (members_eq _) (within_own (raster members)) unknown)

theorem get?_toJson {s : Symbolizer} (h : decode v = .ok s) {k : String} (other : k ∉ s.known) :
    s.toJson.get? k = v.canonical.get? k := by
  obtain ⟨⟨_, _, opened⟩, -⟩ := opened_of_decode h
  exact get?_written opened s.members_eq s.within_own other

end Symbolizer

end symbolizers

end MapLayer
