/-!
Entries in increasing key order, each key once. Main statement: two such collections with the same
value at every key are equal, so looking up describes a collection completely.
-/

namespace MapLayer

/-- The entries with `k` set to `v`, put at its place in the key order. -/
def insertEntry {α : Type} (k : String) (v : α) : List (String × α) → List (String × α)
  | [] => [(k, v)]
  | (k', v') :: rest =>
    if k < k' then (k, v) :: (k', v') :: rest
    else if k = k' then (k, v) :: rest
    else (k', v') :: insertEntry k v rest

abbrev Ordered {α : Type} (entries : List (String × α)) : Prop :=
  entries.Pairwise fun a b => a.1 < b.1

theorem fst_of_mem_insertEntry {α : Type} {k : String} {v : α} {entries : List (String × α)}
    {e : String × α} (h : e ∈ insertEntry k v entries) : e = (k, v) ∨ e ∈ entries := by
  induction entries with
  | nil => simpa [insertEntry] using h
  | cons p rest ih =>
    obtain ⟨k', v'⟩ := p
    simp only [insertEntry] at h
    split at h
    · simpa using h
    · split at h
      · rcases List.mem_cons.1 h with rfl | h
        · exact .inl rfl
        · exact .inr (List.mem_cons_of_mem _ h)
      · rcases List.mem_cons.1 h with rfl | h
        · exact .inr List.mem_cons_self
        · exact (ih h).imp_right (List.mem_cons_of_mem _)

theorem ordered_insertEntry {α : Type} (k : String) (v : α) {entries : List (String × α)}
    (h : Ordered entries) : Ordered (insertEntry k v entries) := by
  induction entries with
  | nil => simp [insertEntry, Ordered]
  | cons p rest ih =>
    obtain ⟨k', v'⟩ := p
    obtain ⟨first, tail⟩ := List.pairwise_cons.1 h
    simp only [insertEntry]
    split
    · rename_i below
      refine List.pairwise_cons.2 ⟨?_, h⟩
      intro e he
      rcases List.mem_cons.1 he with rfl | he
      · exact below
      · exact String.lt_trans below (first e he)
    · rename_i notBelow
      split
      · rename_i same
        subst same
        exact List.pairwise_cons.2 ⟨first, tail⟩
      · rename_i other
        have above : k' < k := by
          apply Decidable.byContradiction
          intro hn
          exact other (String.le_antisymm (String.not_lt.1 hn) (String.not_lt.1 notBelow))
        refine List.pairwise_cons.2 ⟨?_, ih tail⟩
        intro e he
        rcases fst_of_mem_insertEntry he with rfl | he
        · exact above
        · exact first e he

/-- A finite map from text, kept in key order. -/
structure Keyed (α : Type) where
  entries : List (String × α)
  ordered : Ordered entries

namespace Keyed

variable {α β : Type}

instance [DecidableEq α] : DecidableEq (Keyed α) := fun a b =>
  if h : a.entries = b.entries then
    isTrue (by cases a; cases b; subst h; rfl)
  else isFalse fun e => h (e ▸ rfl)

def empty : Keyed α := ⟨[], .nil⟩

instance : EmptyCollection (Keyed α) := ⟨empty⟩
instance : Inhabited (Keyed α) := ⟨empty⟩

def put (m : Keyed α) (k : String) (v : α) : Keyed α :=
  ⟨insertEntry k v m.entries, ordered_insertEntry k v m.ordered⟩

def get? (m : Keyed α) (k : String) : Option α :=
  m.entries.lookup k

def contains (m : Keyed α) (k : String) : Bool :=
  (m.get? k).isSome

def erase (m : Keyed α) (k : String) : Keyed α :=
  ⟨m.entries.filter (·.1 != k), m.ordered.filter _⟩

/-- Later entries win over earlier ones of the same key. -/
def ofList (entries : List (String × α)) : Keyed α :=
  entries.foldl (fun m (k, v) => m.put k v) empty

def keys (m : Keyed α) : List String :=
  m.entries.map (·.1)

def values (m : Keyed α) : List α :=
  m.entries.map (·.2)

theorem lookup_cons (k j : String) (w : α) (rest : List (String × α)) :
    ((j, w) :: rest).lookup k = if k = j then some w else rest.lookup k := by
  by_cases h : k = j
  · rw [List.lookup_cons, beq_iff_eq.2 h, if_pos h]
  · rw [List.lookup_cons, beq_eq_false_iff_ne.2 h, if_neg h]

theorem lookup_insertEntry (k k' : String) (v : α) (entries : List (String × α)) :
    (insertEntry k v entries).lookup k' = if k' = k then some v else entries.lookup k' := by
  induction entries with
  | nil => simp [insertEntry, lookup_cons]
  | cons p rest ih =>
    obtain ⟨j, w⟩ := p
    simp only [insertEntry]
    split
    · rw [lookup_cons]
    · split
      · rename_i same
        subst same
        rw [lookup_cons, lookup_cons]
        split <;> rfl
      · rename_i other
        rw [lookup_cons, lookup_cons, ih]
        by_cases h : k' = j
        · simp [h, Ne.symm other]
        · simp [h]

@[simp] theorem get?_empty (k : String) : (empty : Keyed α).get? k = none := rfl

theorem get?_put (m : Keyed α) (k k' : String) (v : α) :
    (m.put k v).get? k' = if k' = k then some v else m.get? k' :=
  lookup_insertEntry k k' v m.entries

theorem lookup_filter (k k' : String) (entries : List (String × α)) :
    (entries.filter (·.1 != k)).lookup k' = if k' = k then none else entries.lookup k' := by
  induction entries with
  | nil => simp
  | cons p rest ih =>
    obtain ⟨j, w⟩ := p
    rw [lookup_cons, List.filter_cons]
    by_cases hj : j = k
    · subst hj
      simp only [bne_self_eq_false, Bool.false_eq_true, if_false, ih]
      split <;> rfl
    · simp only [bne_iff_ne, ne_eq, hj, not_false_eq_true, if_true, lookup_cons, ih]
      by_cases h : k' = j
      · simp [h, hj]
      · simp [h]

theorem get?_erase (m : Keyed α) (k k' : String) :
    (m.erase k).get? k' = if k' = k then none else m.get? k' :=
  lookup_filter k k' m.entries

/-- The entry that a list of entries gives a key: its last one. -/
def lastOf (k : String) (entries : List (String × α)) : Option α :=
  entries.foldl (fun found (k', v) => if k = k' then some v else found) none

theorem lastOf_concat (k : String) (as : List (String × α)) (e : String × α) :
    lastOf k (as ++ [e]) = if k = e.1 then some e.2 else lastOf k as := by
  rw [lastOf, List.foldl_append]
  rfl

theorem lastOf_append (k : String) (as bs : List (String × α)) :
    lastOf k (as ++ bs) = (lastOf k bs).or (lastOf k as) := by
  induction bs generalizing as with
  | nil => rw [List.append_nil]; rfl
  | cons e bs ih =>
    have first : lastOf k (e :: bs) = (lastOf k bs).or (if k = e.1 then some e.2 else none) :=
      ih [e]
    rw [List.append_cons, ih, lastOf_concat, first, Option.or_assoc]
    split <;> rfl

theorem lastOf_cons (k : String) (e : String × α) (entries : List (String × α)) :
    lastOf k (e :: entries) = (lastOf k entries).or (if k = e.1 then some e.2 else none) :=
  lastOf_append k [e] entries

theorem get?_ofList (k : String) (entries : List (String × α)) :
    (ofList entries).get? k = lastOf k entries := by
  suffices h : ∀ (m : Keyed α) (found : Option α), m.get? k = found →
      (entries.foldl (fun m (k, v) => m.put k v) m).get? k
        = entries.foldl (fun found (k', v) => if k = k' then some v else found) found from
    h empty none rfl
  induction entries with
  | nil => intro m found h; exact h
  | cons p rest ih =>
    intro m found h
    exact ih _ _ (by rw [get?_put, h])

theorem lookup_eq_none_of_lt {k : String} {entries : List (String × α)}
    (h : ∀ e ∈ entries, k < e.1) : entries.lookup k = none := by
  induction entries with
  | nil => rfl
  | cons p rest ih =>
    obtain ⟨j, w⟩ := p
    have hj : k ≠ j := fun e => String.lt_irrefl j (e ▸ h (j, w) List.mem_cons_self)
    rw [lookup_cons, if_neg hj]
    exact ih fun e he => h e (List.mem_cons_of_mem _ he)

theorem ext_entries {a b : List (String × α)} (ha : Ordered a) (hb : Ordered b)
    (same : ∀ k, a.lookup k = b.lookup k) : a = b := by
  induction a generalizing b with
  | nil =>
    cases b with
    | nil => rfl
    | cons q b =>
      obtain ⟨k, w⟩ := q
      have := same k
      simp at this
  | cons p a ih =>
    cases b with
    | nil =>
      obtain ⟨j, v⟩ := p
      have := same j
      simp at this
    | cons q b =>
      obtain ⟨j, v⟩ := p
      obtain ⟨k, w⟩ := q
      obtain ⟨firstA, tailA⟩ := List.pairwise_cons.1 ha
      obtain ⟨firstB, tailB⟩ := List.pairwise_cons.1 hb
      have notBelow : ∀ {x y : String} {u z : α} {s t : List (String × α)},
          (∀ e ∈ s, x < e.1) → (∀ e ∈ t, y < e.1) →
          ((x, u) :: s).lookup x = ((y, z) :: t).lookup x → ¬ x < y := by
        intro x y u z s t _ ht h lt
        have above : ∀ e ∈ (y, z) :: t, x < e.1 := by
          intro e he
          rcases List.mem_cons.1 he with rfl | he
          · exact lt
          · exact String.lt_trans lt (ht e he)
        rw [lookup_eq_none_of_lt above] at h
        simp at h
      have keys : j = k := String.le_antisymm
        (String.not_lt.1 (notBelow firstB firstA (same k).symm))
        (String.not_lt.1 (notBelow firstA firstB (same j)))
      subst keys
      have value : v = w := by simpa [lookup_cons] using same j
      subst value
      have rest : a = b := by
        refine ih tailA tailB fun x => ?_
        by_cases hx : x = j
        · subst hx
          rw [lookup_eq_none_of_lt firstA, lookup_eq_none_of_lt firstB]
        · simpa [lookup_cons, hx] using same x
      rw [rest]

theorem ext {a b : Keyed α} (same : ∀ k, a.get? k = b.get? k) : a = b := by
  have h := ext_entries a.ordered b.ordered same
  cases a; cases b; cases h; rfl

end Keyed

end MapLayer
