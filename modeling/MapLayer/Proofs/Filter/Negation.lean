import MapLayer.Proofs.Filter.RoundTrip

/-! The negation of a filter. Main statement: no assignment of truth keeps both a filter and its negation,
and the two are opposite under every assignment exactly if all clauses of the filter say the same. -/

namespace MapLayer

namespace Cql

structure Literal where
  atom : List Char
  positive : Bool
deriving DecidableEq

namespace Literal

variable {truth : List Char → Bool} {a b : Literal} {ls : List Literal}

def opposite (l : Literal) : Literal := { l with positive := !l.positive }

def holds (truth : List Char → Bool) (l : Literal) : Bool := truth l.atom == l.positive

/-- What a statement says. A `NOT` in front turns it into its opposite. -/
def ofStatement : List Char → Literal
  | 'N' :: 'O' :: 'T' :: ' ' :: s => (ofStatement s).opposite
  | s => ⟨s, true⟩

@[simp] theorem opposite_opposite (l : Literal) : l.opposite.opposite = l := by
  simp [opposite]

@[simp] theorem holds_opposite (truth : List Char → Bool) (l : Literal) :
    l.opposite.holds truth = !l.holds truth := by
  cases sign : l.positive <;> simp [holds, opposite, sign]

theorem exists_holds_of_ne (different : a ≠ b) :
    ∃ truth, a.holds truth = true ∧ b.holds truth = false := by
  refine ⟨fun s => if s = a.atom then a.positive else !b.positive, by simp [holds], ?_⟩
  by_cases same : b.atom = a.atom
  · have signs : a.positive ≠ b.positive := by
      intro sign
      cases a
      cases b
      exact different (by simp_all)
    simpa [holds, same] using signs
  · simp [holds, same]

theorem all_opposite_eq_false (nonempty : ls ≠ []) (all : ls.all (holds truth) = true) :
    (ls.map opposite).all (holds truth) = false := by
  obtain ⟨l, rest, rfl⟩ := List.exists_cons_of_ne_nil nonempty
  have first := List.all_eq_true.1 all l List.mem_cons_self
  rw [List.map_cons, List.all_cons, holds_opposite, first, Bool.not_true, Bool.false_and]

/-- The opposites of literals are their negation together only if there is no choice among them. -/
theorem all_opposite_eq_not_iff (nonempty : ls ≠ []) :
    (∀ truth, (ls.map opposite).all (holds truth) = !ls.all (holds truth)) ↔
      ∀ a ∈ ls, ∀ b ∈ ls, a = b := by
  constructor
  · intro negation a ha b hb
    apply Decidable.byContradiction
    intro different
    -- Where `a` holds and `b` does not, neither the literals nor their opposites all hold.
    obtain ⟨truth, left, right⟩ := exists_holds_of_ne different
    have dropped : ls.all (holds truth) = false := List.all_eq_false.2 ⟨b, hb, by simp [right]⟩
    have lost : (ls.map opposite).all (holds truth) = false :=
      List.all_eq_false.2 ⟨a.opposite, List.mem_map_of_mem ha, by simp [left]⟩
    have := negation truth
    rw [dropped, lost] at this
    contradiction
  · intro same truth
    obtain ⟨l, rest, rfl⟩ := List.exists_cons_of_ne_nil nonempty
    have copies : l :: rest = List.replicate (rest.length + 1) l :=
      List.eq_replicate_iff.2 ⟨rfl, fun b hb => same b hb l List.mem_cons_self⟩
    rw [copies, List.map_replicate, List.all_replicate, List.all_replicate]
    simp

end Literal

end Cql

open MapLayer.Cql

namespace CqlFragment

/-- What a clause says inside its parentheses. -/
def literal (f : CqlFragment) : Literal := .ofStatement f.cql.toList.tail.dropLast

/-- Whether something is kept by every clause. -/
def keeps (truth : List Char → Bool) (fragments : List CqlFragment) : Bool :=
  fragments.all (·.literal.holds truth)

theorem keeps_eq (truth : List Char → Bool) (fragments : List CqlFragment) :
    keeps truth fragments = (fragments.map literal).all (Literal.holds truth) := by
  rw [keeps, List.all_map]
  rfl

theorem literal_spatial (negate : Bool) (text column : String) :
    literal (.spatial ("(" ++ (if negate then "NOT " else "") ++ text ++ ")") column negate)
      = if negate then (Literal.ofStatement text.toList).opposite
        else Literal.ofStatement text.toList := by
  cases negate with
  | false => simp [literal, spatial]
  | true =>
    have inner : ("NOT ".toList ++ text.toList ++ [')']).dropLast = "NOT ".toList ++ text.toList :=
      List.dropLast_concat
    simpa [literal, spatial, Literal.ofStatement] using congrArg Literal.ofStatement inner

end CqlFragment

def FilterDescriptor.flipped (f : FilterDescriptor) : FilterDescriptor :=
  { f with about := { f.about with negate := !f.about.negate } }

variable {column : String} {negate : Bool}

theorem entryFragment_not {statement : Json} {found : Option CqlFragment}
    (h : entryFragment column negate statement = .ok found) :
    ∃ other, entryFragment column (!negate) statement = .ok other ∧
      other.map (·.literal) = found.map (·.literal.opposite) := by
  obtain ⟨p, classified, h⟩ := Outcome.bind_eq_ok.1 h
  obtain rfl := Outcome.pure_eq_ok.1 h
  refine ⟨_, Outcome.bind_eq_ok.2 ⟨p, classified, rfl⟩, ?_⟩
  cases p.cql? column with
  | none => rfl
  | some text =>
    simp only [Option.map_some, CqlFragment.literal_spatial]
    cases negate <;> simp

theorem entryFragments_not {statements : List Json} {fs : List CqlFragment}
    (h : entryFragments column negate statements = .ok fs) :
    ∃ gs, entryFragments column (!negate) statements = .ok gs ∧
      gs.map (·.literal) = fs.map (·.literal.opposite) := by
  induction statements generalizing fs with
  | nil =>
    cases h
    exact ⟨[], rfl, rfl⟩
  | cons statement statements ih =>
    obtain ⟨found, first, h⟩ := Outcome.bind_eq_ok.1 h
    obtain ⟨others, rest, h⟩ := Outcome.bind_eq_ok.1 h
    obtain rfl := Outcome.pure_eq_ok.1 h
    obtain ⟨found', first', said⟩ := entryFragment_not first
    obtain ⟨others', rest', told⟩ := ih rest
    refine ⟨found'.toList ++ others', Outcome.bind_eq_ok.2 ⟨found', first',
      Outcome.bind_eq_ok.2 ⟨others', rest', rfl⟩⟩, ?_⟩
    have same := congrArg Option.toList said
    rw [Option.toList_map, Option.toList_map] at same
    rw [List.map_append, List.map_append, same, told]

theorem fragments_flipped {f : FilterDescriptor} {fs : List CqlFragment}
    (built : f.fragments column = .ok fs) :
    ∃ gs, f.flipped.fragments column = .ok gs ∧
      gs.map (·.literal) = (fs.map (·.literal)).map Literal.opposite := by
  have same : f.flipped.fragments column = if f.targets column && !f.about.disabled then
      entryFragments column (!f.about.negate) (f.clauses.flatMap mustOf) else .ok [] := rfl
  rw [same, List.map_map]
  rw [FilterDescriptor.fragments] at built
  split at built
  · rename_i counts
    rw [if_pos counts]
    exact entryFragments_not built
  · rename_i skipped
    rw [if_neg skipped]
    cases built
    exact ⟨[], rfl, rfl⟩

/-- What a filter keeps its negation drops. What it drops its negation keeps, under every assignment,
exactly if its clauses all say the same. -/
theorem keeps_flipped {f : FilterDescriptor} {fs : List CqlFragment}
    (built : f.fragments column = .ok fs) (nonempty : fs ≠ []) :
    ∃ gs, f.flipped.fragments column = .ok gs ∧
      gs.map (·.literal) = (fs.map (·.literal)).map Literal.opposite ∧
      (∀ truth, CqlFragment.keeps truth fs = true → CqlFragment.keeps truth gs = false) ∧
      ((∀ truth, CqlFragment.keeps truth gs = !CqlFragment.keeps truth fs) ↔
        ∀ a ∈ fs, ∀ b ∈ fs, a.literal = b.literal) := by
  obtain ⟨gs, flipped, literals⟩ := fragments_flipped built
  have some : fs.map (·.literal) ≠ [] := by simpa using nonempty
  refine ⟨gs, flipped, literals, ?_, ?_⟩
  · intro truth kept
    rw [CqlFragment.keeps_eq] at kept ⊢
    rw [literals]
    exact Literal.all_opposite_eq_false some kept
  · have whole := Literal.all_opposite_eq_not_iff some
    simp only [CqlFragment.keeps_eq, literals, whole, List.forall_mem_map]

/-- A filter with one alternative for each relation, on a geometry without points. -/
def emptyShapesFilter (column : String) (relations : List String) : FilterDescriptor :=
  let alternatives := relations.filterMap fun r => (emptyShapeFilter column r).query
  { about := { key := some column }
    query := some (.object [("bool", .object [("should", .array alternatives)])]) }

theorem keeps_flipped_within :
    let f := emptyShapesFilter "geom" ["within"]
    let within := CqlFragment.spatial "(WITHIN(geom, MULTIPOINT ()))" "geom" false
    f.fragments "geom" = .ok [within] ∧ [within] ≠ [] ∧
    ∃ gs, f.flipped.fragments "geom" = .ok gs ∧
      gs.map (·.literal) = ([within].map (·.literal)).map Literal.opposite ∧
      (∀ truth, CqlFragment.keeps truth [within] = true → CqlFragment.keeps truth gs = false) ∧
      ((∀ truth, CqlFragment.keeps truth gs = !CqlFragment.keeps truth [within]) ↔
        ∀ a ∈ [within], ∀ b ∈ [within], a.literal = b.literal) := by
  intro f within
  have built : f.fragments "geom" = .ok [within] := by cbv
  exact ⟨built, List.cons_ne_nil _ _, keeps_flipped built (List.cons_ne_nil _ _)⟩

/-- What is within a geometry but does not touch it is dropped by the filter for both and by its
negation. -/
theorem keeps_flipped_within_touches :
    let f := emptyShapesFilter "geom" ["within", "touches"]
    let truth := fun atom => atom == "WITHIN(geom, MULTIPOINT ())".toList
    f.targets "geom" = true ∧ f.about.disabled = false ∧
    ∃ fs gs, f.fragments "geom" = .ok fs ∧ f.flipped.fragments "geom" = .ok gs ∧
      fs.length = 2 ∧ CqlFragment.keeps truth fs = false ∧ CqlFragment.keeps truth gs = false := by
  let clause (text : String) (negate : Bool) := CqlFragment.spatial text "geom" negate
  refine ⟨by decide, rfl,
    [clause "(WITHIN(geom, MULTIPOINT ()))" false, clause "(TOUCHES(geom, MULTIPOINT ()))" false],
    [clause "(NOT WITHIN(geom, MULTIPOINT ()))" true,
      clause "(NOT TOUCHES(geom, MULTIPOINT ()))" true], ?_, ?_, rfl, by decide, by decide⟩
  · cbv
  · cbv

end MapLayer
