import MapLayer.Filter.Cql
import MapLayer.Proofs.Cql.Join
import MapLayer.Proofs.Geometry.Wkt

/-! The spatial clauses of filters. Main statements: each comes from one entry of a filter that counts,
and is a relation on the column with a balanced text behind it. -/

namespace MapLayer

open MapLayer.Cql

/-- The entries that count for a column, each with whether its filter is negated. -/
def entries (column : String) (filters : List FilterDescriptor) : List (Bool × Json) :=
  filters.flatMap fun f =>
    if f.targets column && !f.about.disabled then
      (f.clauses.flatMap mustOf).map (f.about.negate, ·)
    else []

/-- Every entry says something or nothing, and the clauses are what they say. -/
structure Said (column : String) (es : List (Bool × Json)) (fs : List CqlFragment) : Prop where
  each : ∀ e ∈ es, ∃ found, entryFragment column e.1 e.2 = .ok found
  mem : ∀ f, f ∈ fs ↔ ∃ e ∈ es, entryFragment column e.1 e.2 = .ok (some f)

namespace Said

variable {column : String}

theorem nil : Said column [] [] := ⟨by simp, by simp⟩

theorem cons {e : Bool × Json} {found : Option CqlFragment} {es : List (Bool × Json)}
    {fs : List CqlFragment} (first : entryFragment column e.1 e.2 = .ok found)
    (rest : Said column es fs) : Said column (e :: es) (found.toList ++ fs) := by
  constructor
  · intro x hx
    rcases List.mem_cons.1 hx with rfl | hx
    · exact ⟨found, first⟩
    · exact rest.each x hx
  · intro f
    rw [List.mem_append, rest.mem, Option.mem_toList]
    simp [first]

theorem append {es es' : List (Bool × Json)} {fs fs' : List CqlFragment}
    (left : Said column es fs) (right : Said column es' fs') :
    Said column (es ++ es') (fs ++ fs') := by
  constructor
  · intro e he
    rcases List.mem_append.1 he with he | he
    · exact left.each e he
    · exact right.each e he
  · intro f
    rw [List.mem_append, left.mem, right.mem]
    simp only [List.mem_append, or_and_right, exists_or]

theorem of_entryFragments {negate : Bool} {statements : List Json} {fs : List CqlFragment}
    (h : entryFragments column negate statements = .ok fs) :
    Said column (statements.map (negate, ·)) fs := by
  induction statements generalizing fs with
  | nil =>
    cases h
    exact nil
  | cons statement statements ih =>
    obtain ⟨found, first, h⟩ := Outcome.bind_eq_ok.1 h
    obtain ⟨others, rest, h⟩ := Outcome.bind_eq_ok.1 h
    obtain rfl := Outcome.pure_eq_ok.1 h
    exact cons first (ih rest)

theorem of_fragments {f : FilterDescriptor} {fs : List CqlFragment}
    (h : f.fragments column = .ok fs) : Said column (entries column [f]) fs := by
  rw [FilterDescriptor.fragments] at h
  simp only [entries, List.flatMap_cons, List.flatMap_nil, List.append_nil]
  split at h
  · rename_i counts
    rw [if_pos counts]
    exact of_entryFragments h
  · rename_i skipped
    rw [if_neg skipped]
    cases h
    exact nil

theorem of_spatialFragments {filters : List FilterDescriptor} {fs : List CqlFragment}
    (h : spatialFragments column filters = .ok fs) : Said column (entries column filters) fs := by
  induction filters generalizing fs with
  | nil =>
    cases h
    exact nil
  | cons f filters ih =>
    obtain ⟨first, hf, h⟩ := Outcome.bind_eq_ok.1 h
    obtain ⟨others, rest, h⟩ := Outcome.bind_eq_ok.1 h
    obtain rfl := Outcome.pure_eq_ok.1 h
    have both := (of_fragments hf).append (ih rest)
    simpa [entries] using both

end Said

namespace Distance

theorem mem_of_giveBack? {s number unit : List Char} (h : giveBack? s = some (number, unit))
    {c : Char} (hc : c ∈ number) : c ∈ s := by
  fun_induction giveBack? s generalizing number unit with
  | case1 => contradiction
  | case2 d s front back rest ih =>
    obtain ⟨rfl, rfl⟩ := Prod.mk.inj (Option.some.inj h)
    rcases List.mem_cons.1 hc with rfl | hc
    · exact List.mem_cons_self
    · exact List.mem_cons_of_mem _ (ih rest hc)
  | case3 d e s _ _ _ =>
    obtain ⟨rfl, rfl⟩ := Prod.mk.inj (Option.some.inj h)
    rw [List.mem_singleton.1 hc]
    exact List.mem_cons_self
  | case4 => contradiction
  | case5 => contradiction

theorem isNumeric_numeral {s r : List Char} {d : Char}
    (start : s.dropWhile (!isNumeric ·) = d :: r) {c : Char}
    (hc : c ∈ d :: r.takeWhile isNumeric) : isNumeric c = true := by
  rcases List.mem_cons.1 hc with rfl | hc
  · have first := List.head?_dropWhile_not (!isNumeric ·) s
    rw [start] at first
    simpa using first
  · exact List.all_eq_true.1 List.all_takeWhile c hc

theorem isNumeric_of_find? {s number unit : List Char} (h : find? s = some (number, unit))
    {c : Char} (hc : c ∈ number) : isNumeric c = true := by
  fun_induction find? s with
  | case1 => contradiction
  | case2 s d r start numeral rest _ found given =>
    obtain rfl := Option.some.inj h
    exact isNumeric_numeral start (mem_of_giveBack? given hc)
  | case3 s d r start numeral rest _ _ ih => exact ih h
  | case4 s d r start rest unit _ =>
    obtain ⟨rfl, -⟩ := Prod.mk.inj (Option.some.inj h)
    exact isNumeric_numeral start hc

theorem unbracketed_of_isNumeric {s : List Char} (numeric : ∀ c ∈ s, isNumeric c = true) :
    Unbracketed s := by
  intro c hc
  have := numeric c hc
  constructor <;> (rintro rfl; revert this; decide)

theorem unbracketed_of_parse {raw number : String} {units : Units}
    (h : parse raw = .ok (number, units)) : Unbracketed number.toList := by
  rw [parse] at h
  split at h
  · rename_i found unit e
    obtain ⟨rfl, -⟩ := Prod.mk.inj (Except.ok.inj h)
    rw [String.toList_ofList]
    exact unbracketed_of_isNumeric fun c => isNumeric_of_find? e
  · contradiction

end Distance

namespace SpatialPredicate

def relation? : SpatialPredicate → Option String
  | shape relation _ => some relation
  | distance .. => some "DWITHIN"
  | other => none

def operands : SpatialPredicate → List Char
  | shape _ g => ' ' :: g.wkt.toList
  | distance g number units =>
    ' ' :: g.wkt.toList ++ ',' :: number.toList ++ ',' :: units.name.toList
  | other => []

theorem cql?_eq_some {p : SpatialPredicate} {column text : String}
    (h : p.cql? column = some text) : ∃ relation, p.relation? = some relation ∧
      text.toList = relation.toList ++ '(' :: (column.toList ++ ',' :: p.operands) ++ [')'] := by
  cases p with
  | shape relation g =>
    obtain rfl := Option.some.inj h
    exact ⟨relation, rfl, by simp [operands, toString]⟩
  | distance g number units =>
    obtain rfl := Option.some.inj h
    exact ⟨"DWITHIN", rfl, by simp [operands, toString]⟩
  | other => contradiction

/-- The relation that an entry asks for as it is written there, if it asks for a shape. -/
def writtenRelation? (column : String) (statement : Json) : Option String :=
  ((statement.get? "geo_shape").bind (·.get? column)).map fun spec =>
    ((spec.get? "relation").bind Json.string?).getD "INTERSECTS"

def raised (relation : String) : String := String.ofList (Text.upper relation.toList)

theorem relation?_classify {statement : Json} {column : String} {p : SpatialPredicate}
    (h : classify statement column = .ok p) :
    match writtenRelation? column statement with
    | some written => p.relation? = some (raised written)
    | none => ∀ relation, p.relation? = some relation → relation = "DWITHIN" := by
  rw [classify] at h
  cases asked : (statement.get? "geo_shape").bind (·.get? column) with
  | some spec =>
    rw [asked] at h
    obtain ⟨g, -, h⟩ := Outcome.bind_eq_ok.1 h
    obtain rfl := Outcome.pure_eq_ok.1 h
    simp [writtenRelation?, asked, relation?, relationOf, raised]
  | none =>
    rw [asked] at h
    simp only [writtenRelation?, asked, Option.map_none]
    intro relation hr
    cases p with
    | shape written g =>
      simp only at h
      split at h
      · cases h
      · split at h
        · cases h
        · obtain ⟨_, _, h⟩ := Outcome.bind_eq_ok.1 h
          obtain ⟨_, _, h⟩ := Outcome.bind_eq_ok.1 h
          cases h
    | distance => exact (Option.some.inj hr).symm
    | other => cases hr

theorem balanced_operands {statement : Json} {column : String} {p : SpatialPredicate}
    (h : classify statement column = .ok p) : Balanced p.operands := by
  have shape (g : Geometry) : Balanced (' ' :: g.wkt.toList) := by
    rw [Geometry.wkt, String.toList_ofList]
    exact Balanced.append (s := [' ']) rfl (Geometry.Wkt.balanced_text g)
  cases p with
  | shape relation g => exact shape g
  | other => rfl
  | distance g number units =>
    have numeral : Unbracketed number.toList := by
      rw [classify] at h
      split at h
      · obtain ⟨_, _, h⟩ := Outcome.bind_eq_ok.1 h
        cases h
      · split at h
        · cases h
        · split at h
          · cases h
          · obtain ⟨_, _, h⟩ := Outcome.bind_eq_ok.1 h
            obtain ⟨_, parsed, h⟩ := Outcome.bind_eq_ok.1 h
            cases h
            exact Distance.unbracketed_of_parse parsed
    have unit : Unbracketed units.name.toList := by
      cases units <;> decide
    have comma : Unbracketed [','] := by decide
    have tail := ((comma.append numeral).append comma).append unit
    simpa [operands] using (shape g).append tail.balanced

end SpatialPredicate

def writtenRelations (column : String) (filters : List FilterDescriptor) : List String :=
  (entries column filters).filterMap fun e => SpatialPredicate.writtenRelation? column e.2

def HasRelation (column relation : String) (f : CqlFragment) : Prop :=
  ∃ negate operands, Balanced operands ∧ f = .spatial
    (String.ofList (clauseText negate relation.toList (column.toList ++ ',' :: operands))) column negate

/-- An entry says nothing if it has no relation, and else a clause with that relation. -/
theorem entryFragment_eq_ok {column : String} {negate : Bool} {statement : Json}
    {found : Option CqlFragment} (h : entryFragment column negate statement = .ok found) :
    ∃ p, SpatialPredicate.classify statement column = .ok p ∧
      (p.relation? = none ∧ found = none ∨
        ∃ relation f, p.relation? = some relation ∧ found = some f ∧
          HasRelation column relation f) := by
  obtain ⟨p, classified, h⟩ := Outcome.bind_eq_ok.1 h
  obtain rfl := Outcome.pure_eq_ok.1 h
  refine ⟨p, classified, ?_⟩
  cases written : p.cql? column with
  | none =>
    cases p with
    | other => exact .inl ⟨rfl, rfl⟩
    | shape => cases written
    | distance => cases written
  | some text =>
    obtain ⟨relation, named, chars⟩ := SpatialPredicate.cql?_eq_some written
    refine .inr ⟨relation, _, named, rfl, negate, p.operands,
      SpatialPredicate.balanced_operands classified, ?_⟩
    refine congrArg (CqlFragment.spatial · column negate) (String.toList_injective ?_)
    cases negate <;> simp [clauseText, clauseBody, chars]

variable {column : String} {filters : List FilterDescriptor} {shapes : List CqlFragment}

/-- Every spatial clause has a relation, which is that of distances or was asked for. -/
theorem hasRelation_of_mem (built : spatialFragments column filters = .ok shapes)
    {f : CqlFragment} (hf : f ∈ shapes) : ∃ relation, HasRelation column relation f ∧
      (relation = "DWITHIN" ∨
        ∃ written ∈ writtenRelations column filters, relation = SpatialPredicate.raised written) := by
  obtain ⟨e, he, said⟩ := (Said.of_spatialFragments built).mem f |>.1 hf
  obtain ⟨p, classified, ⟨-, none⟩ | ⟨relation, g, named, same, has⟩⟩ := entryFragment_eq_ok said
  · cases none
  obtain rfl := Option.some.inj same
  refine ⟨relation, has, ?_⟩
  have asked := SpatialPredicate.relation?_classify classified
  cases written : SpatialPredicate.writtenRelation? column e.2 with
  | some w =>
    rw [written, named] at asked
    exact .inr ⟨w, List.mem_filterMap.2 ⟨e, he, written⟩, Option.some.inj asked⟩
  | none =>
    rw [written] at asked
    exact .inl (asked relation named)

theorem exists_hasRelation (built : spatialFragments column filters = .ok shapes)
    {written : String} (hw : written ∈ writtenRelations column filters) :
    ∃ f ∈ shapes, HasRelation column (SpatialPredicate.raised written) f := by
  obtain ⟨e, he, asks⟩ := List.mem_filterMap.1 hw
  have said := Said.of_spatialFragments built
  obtain ⟨found, told⟩ := said.each e he
  obtain ⟨p, classified, cases⟩ := entryFragment_eq_ok told
  have asked := SpatialPredicate.relation?_classify classified
  rw [asks] at asked
  obtain ⟨unnamed, -⟩ | ⟨relation, f, named, rfl, has⟩ := cases
  · rw [asked] at unnamed
    cases unnamed
  · rw [named] at asked
    obtain rfl := Option.some.inj asked
    exact ⟨f, (said.mem f).2 ⟨e, he, told⟩, has⟩

namespace HasRelation

variable {relation : String} {f : CqlFragment}

theorem enclosed (has : HasRelation column relation f) (plain : Unbracketed relation.toList)
    (name : Unbracketed column.toList) : Enclosed f.cql.toList := by
  obtain ⟨negate, operands, balanced, rfl⟩ := has
  have comma : Balanced [','] := rfl
  rw [CqlFragment.spatial, String.toList_ofList]
  exact enclosed_clauseText negate plain (name.balanced.append (comma.append balanced))

theorem classify_eq (has : HasRelation column relation f) (known : relation ∈ spatialPredicates)
    (plain : PlainColumn column) : classify f.cql.toList = f := by
  obtain ⟨negate, operands, -, rfl⟩ := has
  rw [CqlFragment.spatial, String.toList_ofList]
  exact classify_clauseText negate known plain operands

theorem classify_ne (has : HasRelation column relation f)
    (raised : ∀ c ∈ relation.toList, Text.Raised c) (solid : Solid relation.toList)
    (unknown : relation ∉ spatialPredicates) : classify f.cql.toList ≠ f := by
  obtain ⟨negate, operands, -, rfl⟩ := has
  rw [← String.ofList_toList (s := relation)] at unknown
  rw [CqlFragment.spatial, String.toList_ofList]
  intro same
  have plain := isSpatial_clauseText negate raised solid unknown (column.toList ++ ',' :: operands)
  rw [same] at plain
  cases plain

end HasRelation

end MapLayer
