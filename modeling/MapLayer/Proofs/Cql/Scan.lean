import MapLayer.Proofs.Cql.Join

/-!
Taking apart any text, with parentheses that match or not. Main statement: the clauses stand in the text one
behind the other, every run of parentheses that starts where none is open is among them, and taking the joined
clauses apart changes nothing.
-/

namespace MapLayer.Cql

/-- The parentheses that count as open behind a text, of `d` before it. One that closes too many does not
count. -/
def level (d : Nat) : List Char → Nat
  | [] => d
  | c :: s =>
    if c = '(' then level (d + 1) s
    else if c = ')' then level (d - 1) s
    else level d s

/-- Texts that stand in another one from left to right, no two of them in the same place. -/
inductive InOrder : List (List Char) → List Char → Prop
  | nil (s : List Char) : InOrder [] s
  | cons (gap t : List Char) {texts : List (List Char)} {rest : List Char}
      (behind : InOrder texts rest) : InOrder (t :: texts) (gap ++ (t ++ rest))

theorem InOrder.after {texts : List (List Char)} {s : List Char} (h : InOrder texts s)
    (front : List Char) : InOrder texts (front ++ s) := by
  cases h with
  | nil => exact .nil _
  | cons gap t behind =>
    rw [← List.append_assoc]
    exact .cons (front ++ gap) t behind

theorem inOrder_runsFrom (d : Nat) (taken s : List Char) :
    InOrder (runsFrom d taken s) (taken.reverse ++ s) := by
  fun_induction runsFrom d taken s with
  | case1 => exact .nil _
  | case2 d taken s ih => simpa using ih
  | case3 taken c s _ ih =>
    have behind := ih.after (taken.reverse ++ [c])
    simpa using behind
  | case4 taken s _ ih =>
    have run := InOrder.cons [] (')' :: taken).reverse ih
    simpa using run
  | case5 taken s _ _ ih => simpa using ih
  | case6 taken c s _ d _ ih => simpa using ih

theorem inOrder_runs (s : List Char) : InOrder (runs s) s := inOrder_runsFrom 0 [] s

/-- Where no parenthesis is open the scanner starts anew. -/
theorem runsFrom_append_of_level {d : Nat} {taken s : List Char} (opened : Opened d taken)
    (closed : level d s = 0) (rest : List Char) :
    runsFrom d taken (s ++ rest) = runsFrom d taken s ++ runs rest := by
  fun_induction runsFrom d taken s with
  | case1 d taken =>
    obtain rfl : d = 0 := closed
    obtain rfl : taken = [] := opened
    rfl
  | case2 d taken s ih =>
    have opened : Opened (d + 1) ('(' :: taken) := by
      cases d with
      | zero =>
        obtain rfl : taken = [] := opened
        exact ⟨[], rfl, rfl⟩
      | succ d => exact opened.cons rfl
    have step : runsFrom d taken ('(' :: (s ++ rest))
        = runsFrom (d + 1) ('(' :: taken) (s ++ rest) := by simp [runsFrom]
    rw [List.cons_append, step, ih opened closed]
  | case3 taken c s opens ih =>
    have closed : level 0 s = 0 := by
      rw [level, if_neg opens] at closed
      split at closed <;> exact closed
    rw [List.cons_append, runsFrom, if_neg opens, ih rfl closed]
  | case4 taken s _ ih =>
    have step : runsFrom (0 + 1) taken (')' :: (s ++ rest))
        = (')' :: taken).reverse :: runsFrom 0 [] (s ++ rest) := by simp [runsFrom]
    rw [List.cons_append, step, ih rfl closed, List.cons_append]
  | case5 taken s d _ ih =>
    have step : runsFrom (d + 1 + 1) taken (')' :: (s ++ rest))
        = runsFrom (d + 1) (')' :: taken) (s ++ rest) := by simp [runsFrom]
    rw [List.cons_append, step, ih (opened.cons rfl) closed]
  | case6 taken c s opens d closes ih =>
    have opened : Opened (d + 1) (c :: taken) := opened.cons (by simp [depth, opens, closes])
    have closed : level (d + 1) s = 0 := by simpa [level, opens, closes] using closed
    have step : runsFrom (d + 1) taken (c :: (s ++ rest))
        = runsFrom (d + 1) (c :: taken) (s ++ rest) := by simp [runsFrom, opens, closes]
    rw [List.cons_append, step, ih opened closed]

theorem runs_append {s : List Char} (closed : level 0 s = 0) (rest : List Char) :
    runs (s ++ rest) = runs s ++ runs rest := by
  have opened : Opened 0 [] := rfl
  exact runsFrom_append_of_level opened closed rest

theorem texts_split (filter : String) :
    (split filter).map (·.cql.toList) = runs filter.toList := by
  simp [split, Function.comp_def, classify_cql]

/-- For every text, balanced or not: its clauses stand in it from left to right without overlap; each is closed
by its last parenthesis and not before; a run of parentheses that starts where none is open is a clause, with
those of the text before it and of the text behind it around it; and the clauses joined are taken apart into
the same clauses. -/
theorem split_stable (filter : String) :
    InOrder ((split filter).map (·.cql.toList)) filter.toList ∧
      (∀ f ∈ split filter, Enclosed f.cql.toList) ∧
      (∀ before run after : List Char, filter.toList = before ++ run ++ after → level 0 before = 0 →
        Enclosed run → split filter
          = split (String.ofList before) ++ classify run :: split (String.ofList after)) ∧
      split ((CqlFragment.join (split filter)).getD "") = split filter := by
  have enclosed : ∀ f ∈ split filter, Enclosed f.cql.toList := by
    intro f found
    have found : f ∈ ((some filter).map split).getD [] := found
    exact enclosed_of_mem_split found
  refine ⟨texts_split filter ▸ inOrder_runs filter.toList, enclosed, ?_, ?_⟩
  · intro before run after whole closed first
    have apart : runs (run ++ after) = run :: runs after := runsFrom_enclosed first after
    rw [split, whole, List.append_assoc, runs_append closed, apart]
    simp [split]
  · have taken (joined : Option String) :
        split (joined.getD "") = (joined.map split).getD [] := by cases joined <;> rfl
    have same : (split filter).map (fun f => classify f.cql.toList) = split filter := by
      rw [← Function.comp_def classify, ← List.map_map, texts_split, split]
    rw [taken, split_join_enclosed enclosed, same]

/-- A parenthesis that closes nothing is passed over, and a run that stays open swallows what follows. -/
theorem split_stable_stray :
    split ") (NOT within(geom, x)) (b='2' (c)"
        = split ") " ++ classify "(NOT within(geom, x))".toList :: split " (b='2' (c)" ∧
      split ") (NOT within(geom, x)) (b='2' (c)"
        = [.spatial "(NOT within(geom, x))" "geom" true] := by
  have enclosed : Enclosed "(NOT within(geom, x))".toList :=
    ⟨"NOT within(geom, x)".toList, by decide +kernel, by decide +kernel⟩
  have apart := (split_stable ") (NOT within(geom, x)) (b='2' (c)").2.2.1 ") ".toList
    "(NOT within(geom, x))".toList " (b='2' (c)".toList (by decide +kernel) (by decide +kernel) enclosed
  exact ⟨apart, by decide +kernel⟩

end MapLayer.Cql
