import MapLayer.Cql.Split
import MapLayer.Proofs.Text.Pieces

/-! Balanced runs of parentheses. Main statement: clauses that are such runs come apart again where they
were joined. -/

namespace MapLayer.Cql

/-- The parentheses open after a text, of `d` open before it. There are none if one closes too many. -/
def depth (d : Nat) : List Char → Option Nat
  | [] => some d
  | c :: s =>
    if c = '(' then depth (d + 1) s
    else if c = ')' then if d = 0 then none else depth (d - 1) s
    else depth d s

def Balanced (s : List Char) : Prop := depth 0 s = some 0

def Unbracketed (s : List Char) : Prop := ∀ c ∈ s, c ≠ '(' ∧ c ≠ ')'

instance (s : List Char) : Decidable (Balanced s) := inferInstanceAs (Decidable (_ = _))

instance (s : List Char) : Decidable (Unbracketed s) :=
  inferInstanceAs (Decidable (∀ c ∈ s, c ≠ '(' ∧ c ≠ ')'))

/-- A text whose first parenthesis is closed by its last character and not before. -/
def Enclosed (run : List Char) : Prop := ∃ s, Balanced s ∧ run = '(' :: (s ++ [')'])

theorem depth_append (d : Nat) (s t : List Char) :
    depth d (s ++ t) = (depth d s).bind fun e => depth e t := by
  fun_induction depth d s with
  | case1 d => rfl
  | case2 d s ih => simpa [depth] using ih
  | case3 => simp [depth]
  | case4 d s inside _ ih => simpa [depth, inside] using ih
  | case5 d c s opens closes ih => simpa [depth, opens, closes] using ih

theorem depth_add {d e : Nat} {s : List Char} (h : depth d s = some e) (k : Nat) :
    depth (d + k) s = some (e + k) := by
  fun_induction depth d s with
  | case1 d => cases h; rfl
  | case2 d s ih =>
    rw [depth, if_pos rfl, Nat.add_right_comm]
    exact ih h
  | case3 => contradiction
  | case4 d s inside _ ih =>
    have more : d + k - 1 = d - 1 + k := by omega
    rw [depth, if_neg (by decide), if_pos rfl, if_neg (by omega), more]
    exact ih h
  | case5 d c s opens closes ih =>
    rw [depth, if_neg opens, if_neg closes]
    exact ih h

theorem depth_unbracketed {s : List Char} (plain : Unbracketed s) (d : Nat) :
    depth d s = some d := by
  induction s with
  | nil => rfl
  | cons c s ih =>
    obtain ⟨opens, closes⟩ := plain c List.mem_cons_self
    rw [depth, if_neg opens, if_neg closes]
    exact ih fun c hc => plain c (List.mem_cons_of_mem _ hc)

theorem Unbracketed.balanced {s : List Char} (plain : Unbracketed s) : Balanced s :=
  depth_unbracketed plain 0

theorem Unbracketed.append {s t : List Char} (hs : Unbracketed s) (ht : Unbracketed t) :
    Unbracketed (s ++ t) := by
  intro c hc
  rcases List.mem_append.1 hc with hc | hc
  · exact hs c hc
  · exact ht c hc

theorem Balanced.append {s t : List Char} (hs : Balanced s) (ht : Balanced t) :
    Balanced (s ++ t) := by
  rw [Balanced, depth_append, hs]
  exact ht

theorem Balanced.enclosed {s : List Char} (h : Balanced s) : Balanced ('(' :: (s ++ [')'])) := by
  rw [Balanced, depth, if_pos rfl, depth_append, depth_add h 1]
  rfl

theorem Enclosed.balanced {run : List Char} (h : Enclosed run) : Balanced run := by
  obtain ⟨s, balanced, rfl⟩ := h
  exact balanced.enclosed

theorem Balanced.intercalate {mark : List Char} (hm : Balanced mark) {texts : List (List Char)}
    (balanced : ∀ t ∈ texts, Balanced t) : Balanced (mark.intercalate texts) := by
  induction texts with
  | nil => rfl
  | cons t texts ih =>
    have rest := ih fun t ht => balanced t (List.mem_cons_of_mem _ ht)
    cases texts with
    | nil => simpa using balanced t List.mem_cons_self
    | cons u texts =>
      rw [List.intercalate_cons_cons]
      exact ((balanced t List.mem_cons_self).append hm).append rest

/-- Inside an open run the scanner passes over a text that keeps it open. -/
theorem runsFrom_append {d e : Nat} {s : List Char} (h : depth d s = some e)
    (taken rest : List Char) :
    runsFrom (d + 1) taken (s ++ rest) = runsFrom (e + 1) (s.reverse ++ taken) rest := by
  fun_induction depth d s generalizing taken with
  | case1 d => cases h; rfl
  | case2 d s ih => simp [runsFrom, ih h]
  | case3 => contradiction
  | case4 d s inside _ ih =>
    obtain ⟨f, rfl⟩ := Nat.exists_eq_succ_of_ne_zero inside
    have step := ih h (')' :: taken)
    simpa [runsFrom] using step
  | case5 d c s opens closes ih => simp [runsFrom, opens, closes, ih h]

theorem runsFrom_enclosed {run : List Char} (h : Enclosed run) (rest : List Char) :
    runsFrom 0 [] (run ++ rest) = run :: runsFrom 0 [] rest := by
  obtain ⟨s, balanced, rfl⟩ := h
  have inside := runsFrom_append balanced ['('] (')' :: rest)
  simp only [List.cons_append, List.append_assoc, runsFrom, if_pos, List.nil_append]
  rw [inside]
  simp [runsFrom]

theorem runsFrom_unbracketed {s : List Char} (plain : Unbracketed s) (rest : List Char) :
    runsFrom 0 [] (s ++ rest) = runsFrom 0 [] rest := by
  induction s with
  | nil => rfl
  | cons c s ih =>
    rw [List.cons_append, runsFrom, if_neg (plain c List.mem_cons_self).1]
    exact ih fun c hc => plain c (List.mem_cons_of_mem _ hc)

theorem runs_intercalate_cons {mark run : List Char} (plain : Unbracketed mark)
    (first : Enclosed run) (texts : List (List Char)) :
    runs (mark.intercalate (run :: texts)) = run :: runs (mark.intercalate texts) := by
  cases texts with
  | nil => simpa [runs, runsFrom] using runsFrom_enclosed first []
  | cons t texts =>
    rw [List.intercalate_cons_cons, runs, List.append_assoc, runsFrom_enclosed first,
      runsFrom_unbracketed plain]
    rfl

theorem runs_intercalate_append {mark : List Char} (plain : Unbracketed mark)
    {texts : List (List Char)} (enclosed : ∀ t ∈ texts, Enclosed t) (rest : List (List Char)) :
    runs (mark.intercalate (texts ++ rest)) = texts ++ runs (mark.intercalate rest) := by
  induction texts with
  | nil => rfl
  | cons t texts ih =>
    rw [List.cons_append, runs_intercalate_cons plain (enclosed t List.mem_cons_self)]
    exact congrArg (t :: ·) (ih fun t ht => enclosed t (List.mem_cons_of_mem _ ht))

/-- What the scanner has taken when `d` parentheses are open: nothing, or the first of them and a text
that leaves the others open. -/
def Opened : Nat → List Char → Prop
  | 0, taken => taken = []
  | d + 1, taken => ∃ s, depth 0 s = some d ∧ taken.reverse = '(' :: s

theorem Opened.cons {d e : Nat} {taken : List Char} (h : Opened (d + 1) taken) {c : Char}
    (step : depth d [c] = some e) : Opened (e + 1) (c :: taken) := by
  obtain ⟨s, hs, ht⟩ := h
  refine ⟨s ++ [c], ?_, by simp [ht]⟩
  rw [depth_append, hs]
  exact step

theorem enclosed_of_mem_runsFrom {d : Nat} {taken s run : List Char} (opened : Opened d taken)
    (found : run ∈ runsFrom d taken s) : Enclosed run := by
  fun_induction runsFrom d taken s with
  | case1 => cases found
  | case2 d taken s ih =>
    refine ih ?_ found
    cases d with
    | zero =>
      obtain rfl : taken = [] := opened
      exact ⟨[], rfl, rfl⟩
    | succ d => exact opened.cons rfl
  | case3 taken c s _ ih => exact ih rfl found
  | case4 taken s _ ih =>
    rcases List.mem_cons.1 found with rfl | found
    · obtain ⟨t, balanced, ht⟩ := opened
      exact ⟨t, balanced, by simp [ht]⟩
    · exact ih rfl found
  | case5 taken s _ d ih => exact ih (opened.cons rfl) found
  | case6 taken c s opens d closes ih => exact ih (opened.cons (by simp [depth, opens, closes])) found

theorem enclosed_of_mem_runs {s run : List Char} (found : run ∈ runs s) : Enclosed run :=
  enclosed_of_mem_runsFrom (d := 0) rfl found

end MapLayer.Cql
