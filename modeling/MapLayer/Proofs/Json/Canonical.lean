import MapLayer.Json.Basic

/-!
Values in canonical form, and looking into them. Main statement: bringing a value into canonical form twice
is the same as once.
-/

namespace MapLayer

namespace Keyed

@[simp] theorem entries_empty {α : Type} : (∅ : Keyed α).entries = [] := rfl

@[simp] theorem lastOf_nil {α : Type} (k : String) : lastOf k ([] : List (String × α)) = none := rfl

/-- In key order the last entry of a key is its only one. -/
theorem lastOf_entries {α : Type} (m : Keyed α) (k : String) : lastOf k m.entries = m.get? k := by
  obtain ⟨entries, ordered⟩ := m
  show lastOf k entries = entries.lookup k
  induction entries with
  | nil => rfl
  | cons e entries ih =>
    obtain ⟨first, tail⟩ := List.pairwise_cons.1 ordered
    rw [lastOf_cons, lookup_cons, ih tail]
    split
    · rename_i same
      subst same
      rw [lookup_eq_none_of_lt first]
      rfl
    · exact Option.or_none

theorem mem_of_lastOf {α : Type} {k : String} {v : α} {entries : List (String × α)}
    (h : lastOf k entries = some v) : (k, v) ∈ entries := by
  induction entries with
  | nil => cases h
  | cons e entries ih =>
    rw [lastOf_cons, Option.or_eq_some_iff] at h
    rcases h with h | ⟨-, h⟩
    · exact List.mem_cons_of_mem _ (ih h)
    · split at h
      · rename_i same
        cases h
        rw [same]
        exact List.mem_cons_self
      · cases h

end Keyed

namespace Json

theorem get?_ofMembers (members : List (String × Json)) (k : String) :
    (ofMembers members).get? k = Keyed.lastOf k members :=
  Keyed.get?_ofList k members

theorem get?_canonicalMembers (members : List (String × Json)) (k : String) :
    (canonicalMembers members).get? k = (Keyed.lastOf k members).map canonical := by
  induction members with
  | nil => rfl
  | cons m members ih =>
    obtain ⟨j, v⟩ := m
    rw [canonicalMembers, Keyed.lastOf_cons]
    dsimp only
    split
    · rename_i later
      rw [ih]
      split
      · rename_i same
        subst same
        obtain ⟨w, found⟩ := Option.isSome_iff_exists.1 later
        rw [ih] at found
        cases last : Keyed.lastOf k members with
        | none => simp [last] at found
        | some w => rfl
      · rw [Option.or_none]
    · rename_i absent
      rw [Keyed.get?_put, ih]
      split
      · rename_i same
        subst same
        have none : Keyed.lastOf k members = none := by
          simpa [Keyed.contains, ih] using absent
        rw [none]
        rfl
      · rw [Option.or_none]

theorem canonicalItems_eq (items : List Json) : canonicalItems items = items.map canonical := by
  induction items with
  | nil => rfl
  | cons v items ih => rw [canonicalItems, ih, List.map_cons]

def IsCanonical (v : Json) : Prop := v.canonical = v

mutual

theorem isCanonical_canonical (v : Json) : IsCanonical v.canonical := by
  cases v with
  | array items =>
    rw [IsCanonical, canonical, canonical, canonicalItems_eq, canonicalItems_eq, List.map_map]
    exact congrArg array (List.map_congr_left (isCanonical_items items))
  | object members =>
    rw [IsCanonical, canonical, canonical]
    -- sorting again moves nothing, as seen by looking every key up
    refine congrArg (object ·.entries) (Keyed.ext fun k => ?_)
    rw [get?_canonicalMembers, Keyed.lastOf_entries, get?_canonicalMembers]
    cases last : Keyed.lastOf k members with
    | none => rfl
    | some w => exact congrArg some (isCanonical_members members _ (Keyed.mem_of_lastOf last))
  | _ => rfl

theorem isCanonical_items (items : List Json) : ∀ v ∈ items, IsCanonical v.canonical := by
  cases items with
  | nil => nofun
  | cons v items =>
    exact List.forall_mem_cons.2 ⟨isCanonical_canonical v, isCanonical_items items⟩

theorem isCanonical_members (members : List (String × Json)) :
    ∀ m ∈ members, IsCanonical m.2.canonical :=
  match members with
  | [] => nofun
  | (_, v) :: members =>
    List.forall_mem_cons.2 ⟨isCanonical_canonical v, isCanonical_members members⟩

end

inductive Step
  | member (name : String)
  | item (position : Nat)

def step? (v : Json) : Step → Option Json
  | .member name => v.get? name
  | .item position => v.array?.bind (·[position]?)

def below? (v : Json) : List Step → Option Json
  | [] => some v
  | step :: path => (v.step? step).bind (below? · path)

theorem below?_append (v : Json) (path rest : List Step) :
    v.below? (path ++ rest) = (v.below? path).bind (·.below? rest) := by
  induction path generalizing v with
  | nil => rfl
  | cons step path ih =>
    rw [List.cons_append, below?, below?]
    cases v.step? step with
    | none => rfl
    | some w => exact ih w

theorem below?_single (v : Json) (step : Step) : v.below? [step] = v.step? step := by
  cases found : v.step? step <;> simp [below?, found]

theorem below?_member (v : Json) (name : String) (rest : List Step) :
    v.below? (.member name :: rest) = (v.get? name).bind (·.below? rest) := rfl

end Json

end MapLayer
