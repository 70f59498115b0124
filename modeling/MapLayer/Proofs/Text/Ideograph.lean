import Mathlib
import MapLayer.Text.Lower
import MapLayer.Text.Normal

/-! The ideographs of the second plane. Main statement: no table says anything about them, so that a text of
ideographs is its own normal form. -/

namespace MapLayer.Text

namespace Table

def wordsOf (s : List Char) : List (List Char) :=
  (pieces ' ' (s.map fun c => if isSpacing c then ' ' else c)).filter (· ≠ [])

def rangesOf (s : List Char) : List (Nat × Nat) :=
  (wordsOf s).map fun word => match cut? ['-'] word with
    | some (first, last) => (number first, number last)
    | none => (number word, number word)

def rowsOf (s : List Char) : List Row :=
  (wordsOf s).filterMap fun word => (cut? ['='] word).map fun (first, texts) =>
    ⟨number first, (pieces ',' texts).map fun t => (pieces '.' t).map number⟩

/-- A statement about a written table is one about the list of its characters, which can be evaluated. -/
theorem all_ranges {text : String} {s : List Char} {p : Nat × Nat → Bool}
    (chars : text = String.ofList s) (h : (rangesOf s).all p = true) :
    (ranges text).all p = true := by
  rw [ranges, words, chars, String.toList_ofList]
  exact h

theorem all_rows {text : String} {s : List Char} {p : Row → Bool}
    (chars : text = String.ofList s) (h : (rowsOf s).all p = true) : (rows text).all p = true := by
  rw [rows, words, chars, String.toList_ofList]
  exact h

end Table

def isIdeograph (c : Char) : Bool := 0x20000 ≤ c.toNat && c.toNat ≤ 0x2A6DF

/-- Whether the ideographs lie outside a range, and outside the characters of a row. -/
def isElsewhere (r : Nat × Nat) : Bool := r.2 < 0x20000 || 0x2A6DF < r.1

def Table.Row.isElsewhere (r : Table.Row) : Bool :=
  r.first + r.texts.length ≤ 0x20000 || 0x2A6DF < r.first

/-- Whether no ideograph is part of what the characters of a row stand for. -/
def Table.Row.isForOthers (r : Table.Row) : Bool :=
  r.texts.all fun t => t.all fun n => n < 0x20000 || 0x2A6DF < n

variable {c : Char}

theorem toNat_ideograph (hc : isIdeograph c = true) : 0x20000 ≤ c.toNat ∧ c.toNat ≤ 0x2A6DF := by
  simpa [isIdeograph] using hc

theorem ideographs_wide {s : List Char} (all : ∀ c ∈ s, isIdeograph c = true) :
    ∀ c ∈ s, 0x80 ≤ c.toNat := by
  intro c hc
  have := toNat_ideograph (all c hc)
  omega

theorem inRanges_ideograph {table : List (Nat × Nat)} (apart : table.all isElsewhere = true)
    (hc : isIdeograph c = true) : inRanges table c.toNat = false := by
  obtain ⟨low, high⟩ := toNat_ideograph hc
  refine List.any_eq_false.2 fun r hr => ?_
  have outside := List.all_eq_true.1 apart r hr
  simp only [isElsewhere, Bool.or_eq_true, decide_eq_true_eq] at outside
  simp only [Bool.and_eq_true, decide_eq_true_eq]
  omega

theorem caseShift?_ideograph {runs : List (Nat × Nat × Nat × Int)}
    (apart : runs.all (fun r => isElsewhere (r.1, r.2.1)) = true) (hc : isIdeograph c = true) :
    caseShift? runs c.toNat = none := by
  obtain ⟨low, high⟩ := toNat_ideograph hc
  refine Option.map_eq_none_iff.2 (List.find?_eq_none.2 fun r hr => ?_)
  obtain ⟨first, last, step, shift⟩ := r
  have outside := List.all_eq_true.1 apart _ hr
  simp only [isElsewhere, Bool.or_eq_true, decide_eq_true_eq] at outside
  simp only [Bool.and_eq_true, decide_eq_true_eq]
  omega

/-- In a table that says what the characters of ranges are, no ideograph is found. -/
theorem find?_ranges_ideograph {α : Type} {table : List (α × List (Nat × Nat))}
    {p : α × List (Nat × Nat) → Bool} (apart : table.all (fun e => e.2.all isElsewhere) = true)
    (hc : isIdeograph c = true) (ranges : ∀ e, p e = inRanges e.2 c.toNat) : table.find? p = none := by
  refine List.find?_eq_none.2 fun e he => ?_
  rw [ranges, inRanges_ideograph (List.all_eq_true.1 apart e he) hc]
  exact nofun

theorem find?_ideograph {rows : List Table.Row}
    (apart : rows.all Table.Row.isElsewhere = true) (hc : isIdeograph c = true) :
    Table.find? rows c.toNat = none := by
  obtain ⟨low, high⟩ := toNat_ideograph hc
  refine List.findSome?_eq_none_iff.2 fun r hr => ?_
  have outside := List.all_eq_true.1 apart r hr
  simp only [Table.Row.isElsewhere, Bool.or_eq_true, decide_eq_true_eq] at outside
  split
  · exact List.getElem?_eq_none (by omega)
  · rfl

set_option maxRecDepth 100000 in
theorem marks_elsewhere : markTable.all isElsewhere = true := by
  apply Table.all_ranges
  · with_reducible rfl
  · decide +kernel

set_option maxRecDepth 100000 in
theorem classes_elsewhere : combiningTable.all (fun e => e.2.all isElsewhere) = true := by
  simp only [combiningTable, List.all_cons, List.all_nil, Bool.and_true, Bool.and_eq_true]
  and_intros
  all_goals
    apply Table.all_ranges
    · with_reducible rfl
    · decide +kernel

set_option maxRecDepth 100000 in
theorem compositions_elsewhere :
    compositionTable.all (fun r => r.isElsewhere && r.isForOthers) = true := by
  apply Table.all_rows
  · with_reducible rfl
  · decide +kernel

theorem lowerRuns_elsewhere : lowerRuns.all (fun r => isElsewhere (r.1, r.2.1)) = true := by
  decide +kernel

theorem isMark_ideograph (hc : isIdeograph c = true) : isMark c = false := by
  rw [isMark, inRanges_ideograph marks_elsewhere hc, Bool.and_false]

theorem lowerChar_ideograph (hc : isIdeograph c = true) : lowerChar c = [c] := by
  obtain ⟨low, high⟩ := toNat_ideograph hc
  have ascii : ¬c.toNat < 0x80 := by omega
  have dotted : (c.toNat == 0x130) = false := by
    rw [beq_eq_false_iff_ne]
    omega
  simp only [lowerChar, if_neg ascii, caseShift?_ideograph lowerRuns_elsewhere hc, dotted]
  rfl

theorem combiningClass_ideograph (hc : isIdeograph c = true) : combiningClass c = 0 := by
  obtain ⟨low, high⟩ := toNat_ideograph hc
  have wide : ¬c.toNat < 0x300 := by omega
  rw [combiningClass, if_neg wide, find?_ranges_ideograph classes_elsewhere hc ?_]
  · rfl
  · exact fun _ => rfl

namespace Normal

theorem apart_ideograph (hc : isIdeograph c = true) : apart maxMarks c = [c] := by
  obtain ⟨low, high⟩ := toNat_ideograph hc
  have rows : compositionTable.all Table.Row.isElsewhere = true := by
    refine List.all_eq_true.2 fun r hr => ?_
    exact (Bool.and_eq_true_iff.1 (List.all_eq_true.1 compositions_elsewhere r hr)).1
  have syllable : syllableParts? c.toNat = none := by
    unfold syllableParts?
    rw [if_pos (by simp; omega)]
  have none : parts? c = none := by
    rw [parts?, find?_ideograph rows hc, syllable]
  have ascii : ¬c.toNat < 0x80 := by omega
  simp only [maxMarks, apart, if_neg ascii, none]

theorem composed?_ideograph (hc : isIdeograph c = true) (d : Char) : composed? c d = none := by
  obtain ⟨low, high⟩ := toNat_ideograph hc
  have syllable : syllable? c.toNat d.toNat = none := by
    unfold syllable?
    rw [if_neg (by omega), if_neg (by omega)]
  have rows : compositionTable.findSome? (composedIn? [c.toNat, d.toNat]) = none := by
    refine List.findSome?_eq_none_iff.2 fun r hr => ?_
    have others := (Bool.and_eq_true_iff.1 (List.all_eq_true.1 compositions_elsewhere r hr)).2
    refine Option.map_eq_none_iff.2 (List.findIdx?_eq_none_iff.2 fun t ht => ?_)
    rw [beq_eq_false_iff_ne]
    rintro rfl
    have outside := List.all_eq_true.1 (List.all_eq_true.1 others _ ht) _ List.mem_cons_self
    simp only [Bool.or_eq_true, decide_eq_true_eq] at outside
    omega
  rw [composed?, syllable, rows]
  rfl

theorem joined_ideographs {s : List Char} (hc : isIdeograph c = true)
    (all : ∀ d ∈ s, isIdeograph d = true) : joined c [] s = c :: s := by
  induction s generalizing c with
  | nil => rfl
  | cons d s ih =>
    have hd := all d List.mem_cons_self
    rw [joined, ih hd fun e he => all e (List.mem_cons_of_mem _ he)]
    simp [composed?_ideograph hc, combiningClass_ideograph hd]

theorem ordered_ideographs {s : List Char} (all : ∀ d ∈ s, isIdeograph d = true) :
    ordered s = s := by
  induction s with
  | nil => rfl
  | cons d s ih =>
    rw [ordered, if_pos (combiningClass_ideograph (all d List.mem_cons_self)),
      ih fun e he => all e (List.mem_cons_of_mem _ he)]

end Normal

theorem normal_ideographs {s : List Char} (all : ∀ d ∈ s, isIdeograph d = true) :
    normal s = s := by
  have apart : s.flatMap (Normal.apart Normal.maxMarks) = s := by
    induction s with
    | nil => rfl
    | cons d s ih =>
      rw [List.flatMap_cons, Normal.apart_ideograph (all d List.mem_cons_self),
        ih fun e he => all e (List.mem_cons_of_mem _ he)]
      rfl
  unfold normal
  split
  · rfl
  · rw [apart, Normal.ordered_ideographs all]
    cases s with
    | nil => rfl
    | cons d s =>
      have unmarked : (combiningClass d != 0) = false := by
        rw [combiningClass_ideograph (all d List.mem_cons_self)]
        rfl
      have joined := Normal.joined_ideographs (all d List.mem_cons_self)
        fun e he => all e (List.mem_cons_of_mem _ he)
      simp [List.dropWhile, List.takeWhile, unmarked, joined]

end MapLayer.Text
