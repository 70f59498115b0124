import MapLayer.Failure
import MapLayer.Json.Decode
import MapLayer.Proofs.Json.Canonical
import Mathlib.Data.List.Forall2
import Mathlib.Data.List.Nodup

/-!
Records as members of objects. Main statements: an open record keeps the unknown members of the value it is
read from, and what is written of a record is read again field by field.
-/

namespace MapLayer.Json

variable {α : Type} {names : List String} {what name k : String}

section lookups

theorem lastOf_eq_lookup {members : Fields} (single : members.countP (·.1 == name) ≤ 1) :
    Keyed.lastOf name members = members.lookup name := by
  induction members with
  | nil => rfl
  | cons m members ih =>
    obtain ⟨j, v⟩ := m
    rw [Keyed.lastOf_cons, Keyed.lookup_cons]
    by_cases same : name = j
    · subst same
      have others : members.lookup name = none := by
        simp only [List.countP_cons, beq_self_eq_true, if_true] at single
        have zero : members.countP (·.1 == name) = 0 := by omega
        rw [List.countP_eq_zero] at zero
        rw [List.lookup_eq_none_iff]
        intro m hm
        simpa [Bool.beq_comm] using zero m hm
      have rest : members.countP (·.1 == name) ≤ 1 := by
        simp only [List.countP_cons] at single
        omega
      simp [ih rest, others]
    · have rest : members.countP (·.1 == name) ≤ 1 := by
        simpa [List.countP_cons, Ne.symm same] using single
      simp [ih rest, same]

theorem countP_entries (m : Keyed Json) (name : String) : m.entries.countP (·.1 == name) ≤ 1 := by
  have keys : (m.entries.map (·.1)).Nodup := by
    rw [List.nodup_iff_pairwise_ne, List.pairwise_map]
    refine m.ordered.imp fun below same => ?_
    rw [same] at below
    exact String.lt_irrefl _ below
  have count := List.nodup_iff_count_le_one.1 keys name
  rwa [List.count, List.countP_map] at count

theorem repeated?_entries (names : List String) (m : Keyed Json) : repeated? names m.entries = none := by
  rw [repeated?, List.find?_eq_none]
  intro name _
  have single := countP_entries m name
  simpa using single

end lookups

/-- Whether members are in canonical form and have other names than these. -/
structure Unknown (names : List String) (extra : Keyed Json) : Prop where
  other : ∀ k ∈ names, extra.get? k = none
  canonical : ∀ {k w}, extra.get? k = some w → IsCanonical w

section opening

variable {v : Json} {fields : Fields} {extra : Keyed Json}

theorem of_decodeOpen (h : decodeOpen what names v = .ok (fields, extra)) :
    v = .object fields ∧ (∀ name ∈ names, fields.countP (·.1 == name) ≤ 1)
      ∧ extra = canonicalMembers (fields.filter fun m => m.1 ∉ names) := by
  unfold decodeOpen at h
  split at h
  · split at h
    · cases h
    · rename_i single
      cases h
      refine ⟨rfl, fun name known => ?_, rfl⟩
      simpa using List.find?_eq_none.1 single name known
  · cases h

theorem lastOf_unknown (names : List String) (members : Fields) (k : String) :
    Keyed.lastOf k (members.filter fun m => m.1 ∉ names)
      = if k ∈ names then none else Keyed.lastOf k members := by
  induction members with
  | nil => simp [Keyed.lastOf]
  | cons m members ih =>
    by_cases known : m.1 ∈ names
    · rw [List.filter_cons_of_neg (by simpa using known), ih, Keyed.lastOf_cons]
      split
      · rfl
      · rename_i other
        have apart : k ≠ m.1 := fun same => other (same ▸ known)
        simp [apart]
    · rw [List.filter_cons_of_pos (by simpa using known), Keyed.lastOf_cons, Keyed.lastOf_cons, ih]
      split
      · rename_i listed
        have apart : k ≠ m.1 := fun same => known (same ▸ listed)
        simp [apart]
      · rfl

theorem get?_unknown (h : decodeOpen what names v = .ok (fields, extra)) (k : String) :
    extra.get? k = if k ∈ names then none else v.canonical.get? k := by
  obtain ⟨rfl, -, rfl⟩ := of_decodeOpen h
  have whole : (canonical (.object fields)).get? k = (Keyed.lastOf k fields).map canonical :=
    get?_canonicalMembers fields k
  rw [get?_canonicalMembers, lastOf_unknown, whole]
  split <;> rfl

theorem unknown_of_decodeOpen (h : decodeOpen what names v = .ok (fields, extra)) :
    Unknown names extra where
  other k known := by rw [get?_unknown h, if_pos known]
  canonical {k w} found := by
    obtain ⟨-, -, rfl⟩ := of_decodeOpen h
    rw [get?_canonicalMembers, Option.map_eq_some_iff] at found
    obtain ⟨u, -, rfl⟩ := found
    exact isCanonical_canonical u

theorem get?_known (h : decodeOpen what names v = .ok (fields, extra)) (known : name ∈ names) :
    v.canonical.get? name = (fields.lookup name).map canonical := by
  obtain ⟨rfl, single, -⟩ := of_decodeOpen h
  rw [← lastOf_eq_lookup (single name known)]
  exact get?_canonicalMembers fields name

end opening

section written

variable {own : List (String × Json)} {extra : Keyed Json}

def Within (names : List String) (members : List (String × Json)) : Prop := ∀ m ∈ members, m.1 ∈ names

theorem lastOf_own (unknown : Unknown names extra) (known : k ∈ names) :
    Keyed.lastOf k (own ++ extra.entries) = Keyed.lastOf k own := by
  rw [Keyed.lastOf_append, Keyed.lastOf_entries, unknown.other k known, Option.none_or]

theorem lastOf_other (within : Within names own) (other : k ∉ names) :
    Keyed.lastOf k (own ++ extra.entries) = extra.get? k := by
  have none : Keyed.lastOf k own = none := by
    cases last : Keyed.lastOf k own with
    | none => rfl
    | some v => exact absurd (within _ (Keyed.mem_of_lastOf last)) other
  rw [Keyed.lastOf_append, Keyed.lastOf_entries, none, Option.or_none]

theorem decodeOpen_ofKeyed (what : String) (names : List String) (m : Keyed Json) :
    decodeOpen what names (ofKeyed m)
      = .ok (m.entries, canonicalMembers (m.entries.filter fun e => e.1 ∉ names)) := by
  rw [ofKeyed, decodeOpen, repeated?_entries]

theorem unknown_ofList {members : List (String × Json)} (split : members = own ++ extra.entries)
    (within : Within names own) (unknown : Unknown names extra) :
    canonicalMembers ((Keyed.ofList members).entries.filter fun m => m.1 ∉ names) = extra := by
  subst split
  refine Keyed.ext fun k => ?_
  rw [get?_canonicalMembers, lastOf_unknown, Keyed.lastOf_entries, Keyed.get?_ofList]
  split
  · rename_i known
    exact (unknown.other k known).symm
  · rename_i other
    rw [lastOf_other within other]
    cases found : extra.get? k with
    | none => rfl
    | some w => exact congrArg some (unknown.canonical found)

/-- A record is opened as it is written. -/
theorem decodeOpen_ofMembers (what : String) {members : List (String × Json)}
    (split : members = own ++ extra.entries) (within : Within names own)
    (unknown : Unknown names extra) :
    ∃ fields, decodeOpen what names (ofMembers members) = .ok (fields, extra)
      ∧ ∀ k ∈ names, fields.lookup k = Keyed.lastOf k own := by
  refine ⟨(Keyed.ofList members).entries, ?_, fun k known => ?_⟩
  · rw [ofMembers, decodeOpen_ofKeyed, unknown_ofList split within unknown]
  · rw [← lastOf_own unknown known, ← split]
    exact Keyed.get?_ofList k _

/-- What is written of an open record has the unknown members of the value it was read from. -/
theorem get?_written {v : Json} {fields : Fields} {members : List (String × Json)}
    (opened : decodeOpen what names v = .ok (fields, extra))
    (split : members = own ++ extra.entries) (within : Within names own) (other : k ∉ names) :
    (ofMembers members).get? k = v.canonical.get? k := by
  rw [split, get?_ofMembers, lastOf_other within other, get?_unknown opened, if_neg other]

theorem decodeFields_ofMembers (what : String) (names : List String) (members : List (String × Json)) :
    ∃ fields, decodeFields what names (ofMembers members) = .ok fields
      ∧ ∀ k, fields.lookup k = Keyed.lastOf k members := by
  refine ⟨(Keyed.ofList members).entries, ?_, fun k => Keyed.get?_ofList k members⟩
  rw [ofMembers, ofKeyed, decodeFields, repeated?_entries]

end written

section members

variable {value : α → Json} {x : Option α}

@[simp] theorem lastOf_optionalMember :
    Keyed.lastOf k (optionalMember name value x) = if k = name then x.map value else none := by
  cases x <;> simp [optionalMember, Keyed.lastOf]

@[simp] theorem within_nil : Within names [] := List.forall_mem_nil _

@[simp] theorem within_cons {m : String × Json} {members : List (String × Json)} :
    Within names (m :: members) ↔ m.1 ∈ names ∧ Within names members :=
  List.forall_mem_cons

@[simp] theorem within_append {a b : List (String × Json)} :
    Within names (a ++ b) ↔ Within names a ∧ Within names b :=
  List.forall_mem_append

@[simp] theorem within_optionalMember (known : name ∈ names) :
    Within names (optionalMember name value x) := by
  cases x <;> simp [optionalMember, known]

end members

section values

variable {read : Json → Decoded α} {value : α → Json}

def decodeFound (read : Json → Decoded α) : Option Json → Decoded (Option α)
  | some v => decodeOption read v
  | none => .ok none

theorem optional_eq (fields : Fields) (name : String) :
    fields.optional name read = decodeFound read (fields.lookup name) := by
  unfold Fields.optional Fields.orElse
  split <;> rename_i found <;> rw [found] <;> rfl

theorem of_optional {fields : Fields} {x : Option α} (h : fields.optional name read = .ok x) :
    ∀ a ∈ x, ∃ v, read v = .ok a := by
  rw [optional_eq] at h
  rintro a rfl
  cases found : fields.lookup name with
  | none =>
    rw [found] at h
    cases h
  | some v =>
    rw [found, decodeFound] at h
    unfold decodeOption at h
    split at h
    · cases h
    · obtain ⟨b, read, same⟩ := Outcome.map_eq_ok.1 h
      cases same
      exact ⟨v, read⟩

theorem orElse_eq {fields : Fields} {v : Json} (found : fields.lookup name = some v) (absent : α) :
    fields.orElse name absent read = read v := by
  rw [Fields.orElse, found]

theorem required_eq_ok {fields : Fields} {a : α} :
    fields.required name read = .ok a ↔ ∃ v, fields.lookup name = some v ∧ read v = .ok a := by
  unfold Fields.required
  split <;> simp [*]

theorem decodeString_eq_ok {v : Json} {s : String} : decodeString v = .ok s ↔ v = .string s := by
  cases v <;> simp [decodeString]

theorem decodeFound_map {x : Option α} (back : ∀ a ∈ x, read (value a) = .ok a)
    (present : ∀ a, value a ≠ .null) : decodeFound read (x.map value) = .ok x := by
  cases x with
  | none => rfl
  | some a =>
    have some : decodeOption read (value a) = some <$> read (value a) := by
      unfold decodeOption
      split
      · rename_i null
        exact absurd null (present a)
      · rfl
    rw [Option.map_some, decodeFound, some, back a rfl]
    rfl

theorem decodeItems_eq_ok {vs : List Json} {as : List α} :
    decodeItems read vs = .ok as ↔ List.Forall₂ (fun v a => read v = .ok a) vs as := by
  induction vs generalizing as with
  | nil => cases as <;> simp [decodeItems]
  | cons v vs ih =>
    simp only [decodeItems, Outcome.bind_eq_ok, Outcome.pure_eq_ok, ih, List.forall₂_cons_left_iff]
    constructor
    · rintro ⟨a, first, rest, others, rfl⟩
      exact ⟨a, rest, first, others, rfl⟩
    · rintro ⟨a, rest, first, others, rfl⟩
      exact ⟨a, first, rest, others, rfl⟩

theorem decodeList_map_iff {as : List α} :
    decodeList read (.array (as.map value)) = .ok as ↔ ∀ a ∈ as, read (value a) = .ok a := by
  rw [decodeList, decodeItems_eq_ok, List.forall₂_map_left_iff, List.forall₂_same]

theorem decodeList_map {as : List α} (back : ∀ a ∈ as, read (value a) = .ok a) :
    decodeList read (.array (as.map value)) = .ok as :=
  decodeList_map_iff.2 back

theorem of_items {vs : List Json} {as : List α} (h : decodeItems read vs = .ok as) :
    ∀ a ∈ as, ∃ v, read v = .ok a := by
  rw [decodeItems_eq_ok] at h
  induction h with
  | nil => nofun
  | cons first _ ih => exact List.forall_mem_cons.2 ⟨⟨_, first⟩, ih⟩

theorem of_list {fields : Fields} {as : List α}
    (h : fields.orElse name [] (decodeList read) = .ok as) : ∀ a ∈ as, ∃ v, read v = .ok a := by
  unfold Fields.orElse decodeList at h
  split at h
  · split at h
    · exact of_items h
    · cases h
  · cases h
    nofun

@[simp] theorem decodeFound_string (x : Option String) :
    decodeFound decodeString (x.map .string) = .ok x :=
  decodeFound_map (fun _ _ => rfl) nofun

@[simp] theorem decodeFound_float (x : Option Float) :
    decodeFound decodeFloat (x.map .float) = .ok x :=
  decodeFound_map (fun _ _ => rfl) nofun

@[simp] theorem decodeFound_strings (x : Option (List String)) :
    decodeFound (decodeList decodeString) (x.map ofStrings) = .ok x :=
  decodeFound_map (fun _ _ => decodeList_map fun _ _ => rfl) nofun

end values

section places

variable {read : Json → Decoded α} {write : α → Json}

/-- A part of what is written against the same part of the original: it is the text of what was read
there, or there is nothing to be read. -/
inductive Alike (read : Json → Decoded α) (write : α → Json) : Option Json → Option Json → Prop
  | absent : Alike read write none none
  | null : Alike read write none (some .null)
  | present {v : Json} {a : α} (h : read v = .ok a) :
      Alike read write (some (write a)) (some v.canonical)

theorem Alike.below {β : Type} {inner : Json → Decoded β} {innerWrite : β → Json} {w o : Option Json}
    {path : List Step} (h : Alike read write w o)
    (step : ∀ {v a}, read v = .ok a →
      Alike inner innerWrite ((write a).below? path) (v.canonical.below? path)) :
    Alike inner innerWrite (w.bind (·.below? path)) (o.bind (·.below? path)) := by
  cases h with
  | absent => exact .absent
  | null =>
    -- a null has no parts, but it is itself at the end of an empty path
    cases path with
    | nil => exact .null
    | cons s path => cases s <;> exact .absent
  | present read => exact step read

theorem Alike.get? {w o : Option Json} (h : Alike read write w o)
    (same : ∀ {v a}, read v = .ok a → o = some v.canonical →
      (write a).get? k = v.canonical.get? k) :
    w.bind (·.get? k) = o.bind (·.get? k) := by
  cases h with
  | absent => rfl
  | null => rfl
  | present read => exact same read rfl

theorem alike_items {vs : List Json} {as : List α} (h : decodeItems read vs = .ok as) (i : ℕ) :
    Alike read write ((as.map write)[i]?) ((canonicalItems vs)[i]?) := by
  rw [canonicalItems_eq]
  rw [decodeItems_eq_ok] at h
  induction h generalizing i with
  -- past the end there is nothing on either side
  | nil => exact .absent
  | cons first _ ih =>
    cases i with
    | zero => exact .present first
    | succ i => exact ih i

section opened

variable {v : Json} {fields : Fields} {extra : Keyed Json}

theorem alike_optional {x : Option α} (opened : decodeOpen what names v = .ok (fields, extra))
    (known : name ∈ names) (h : fields.optional name read = .ok x) :
    Alike read write (x.map write) (v.canonical.get? name) := by
  rw [get?_known opened known]
  rw [optional_eq] at h
  cases found : fields.lookup name with
  | none =>
    rw [found] at h
    cases h
    exact .absent
  | some u =>
    rw [found, decodeFound] at h
    unfold decodeOption at h
    split at h
    · cases h
      exact .null
    · obtain ⟨a, read, rfl⟩ := Outcome.map_eq_ok.1 h
      exact .present read

theorem alike_list {as : List α} {w : Json}
    (opened : decodeOpen what names v = .ok (fields, extra)) (known : name ∈ names)
    (h : fields.orElse name [] (decodeList read) = .ok as)
    (written : w.get? name = some (.array (as.map write))) (i : ℕ) :
    Alike read write (w.below? [.member name, .item i])
      (v.canonical.below? [.member name, .item i]) := by
  have item : w.below? [.member name, .item i] = (as.map write)[i]? := by
    simp [written, below?, step?, array?]
  rw [item, below?_member, get?_known opened known]
  unfold Fields.orElse at h
  split at h
  · rename_i u found
    rw [found]
    unfold decodeList at h
    split at h
    · have items : Alike read write _ _ := alike_items h i
      simpa [below?, step?, array?, canonical] using items
    · cases h
  · rename_i absent
    rw [absent]
    cases h
    exact .absent

end opened

end places

end MapLayer.Json
