import MapLayer.Proofs.Text.Ideograph
import MapLayer.Proofs.Text.Pieces
import MapLayer.Proofs.Url.Punycode
import MapLayer.Url.Domain

/-! Names of ideographs. Main statements: such a name has an ASCII form, and one whose form is too long is
not read from it. -/

namespace MapLayer.Url.Domain

open MapLayer.Text

set_option maxRecDepth 100000 in
theorem refused_elsewhere : refusedTable.all isElsewhere = true := by
  apply Table.all_ranges
  · with_reducible rfl
  · decide +kernel

set_option maxRecDepth 100000 in
theorem ignored_elsewhere : ignoredTable.all isElsewhere = true := by
  apply Table.all_ranges
  · with_reducible rfl
  · decide +kernel

set_option maxRecDepth 200000 in
theorem replacements_elsewhere : replacementTable.all Table.Row.isElsewhere = true := by
  apply Table.all_rows
  · with_reducible rfl
  · decide +kernel

theorem shifts_elsewhere : shiftTable.all (fun r => isElsewhere (r.1, r.2.1)) = true := by
  decide +kernel

set_option maxRecDepth 100000 in
theorem directions_elsewhere : directionTable.all (fun e => e.2.all isElsewhere) = true := by
  simp only [directionTable, List.all_cons, List.all_nil, Bool.and_true, Bool.and_eq_true]
  and_intros
  all_goals
    apply Table.all_ranges
    · with_reducible rfl
    · decide +kernel

variable {c : Char} {name : List Char}

theorem meaning?_ideograph (hc : isIdeograph c = true) : meaning? c = some [c] := by
  obtain ⟨low, high⟩ := toNat_ideograph hc
  have ascii : ¬c.toNat < 0x80 := by omega
  have kept : isKept c.toNat = false := by
    simp only [isKept, Bool.and_eq_false_iff, decide_eq_false_iff_not]
    omega
  rw [meaning?, find?_ideograph replacements_elsewhere hc, if_neg ascii,
    inRanges_ideograph refused_elsewhere hc, inRanges_ideograph ignored_elsewhere hc,
    caseShift?_ideograph shifts_elsewhere hc, kept]
  exact congrArg some (lowerChar_ideograph hc)

theorem directionOf_ideograph (hc : isIdeograph c = true) : directionOf c = .left := by
  rw [directionOf, find?_ranges_ideograph directions_elsewhere hc ?_]
  · rfl
  · exact fun _ => rfl

theorem joinersFit_ideographs (before : List Char) (all : ∀ c ∈ name, isIdeograph c = true) :
    joinersFit before name = true := by
  induction name generalizing before with
  | nil => rfl
  | cons c name ih =>
    have hc := all c List.mem_cons_self
    have other : (c == joiner) = false ∧ (c == nonJoiner) = false := by
      constructor <;> (rw [beq_eq_false_iff_ne]; rintro rfl; revert hc; decide)
    rw [joinersFit, other.1, other.2, ih _ fun d hd => all d (List.mem_cons_of_mem _ hd)]
    rfl

theorem mapM_eq_some {α β : Type} {f : α → Option β} {g : α → β} {as : List α}
    (each : ∀ a ∈ as, f a = some (g a)) : as.mapM f = some (as.map g) := by
  induction as with
  | nil => rfl
  | cons a as ih =>
    rw [List.mapM_cons, each a List.mem_cons_self, ih fun b hb => each b (List.mem_cons_of_mem _ hb)]
    rfl

theorem normal_of_ascii {s : List Char} (ascii : ∀ c ∈ s, c.toNat < 0x80) : normal s = s := by
  rw [normal, if_pos]
  refine List.all_eq_true.2 fun c hc => decide_eq_true ?_
  exact Nat.lt_trans (ascii c hc) (by decide)

theorem asciiName?_label {s : List Char} (plain : ∀ c ∈ s, meaning? c = some [c])
    (whole : normal s = s) (single : '.' ∉ s) : asciiName? s = (label? s).bind fun label =>
      if (isTwoWay [label.meant] && !hasOneDirection label.meant) || label.ascii.any isForbidden then
        none
      else some label.ascii := by
  have parts : pieces '.' (normal (s.map fun c => [c]).flatten) = [s] := by
    have flat : (s.map fun c => [c]).flatten = s := by
      rw [← List.flatMap_def]
      exact List.flatMap_singleton' s
    rw [flat, whole, pieces_of_not_mem single]
  rw [asciiName?, mapM_eq_some plain]
  simp only [Option.bind_eq_bind, Option.bind_some, parts]
  cases found : label? s with
  | none => simp [found]
  | some label => simp [found, join]

theorem ascii_of_isDigit (h : Punycode.IsDigit c) : c.toNat < 0x80 ∧ c.toLower = c ∧ c ≠ '.' ∧
    isForbidden c = false := by
  obtain ⟨d, bound, rfl⟩ := h
  revert d
  decide

theorem isDigit_of_mem_form (all : ∀ c ∈ name, isIdeograph c = true) (h : c ∈ Punycode.encode name) :
    Punycode.IsDigit c := Punycode.isDigit_of_mem_encode (ideographs_wide all) h

/-- A name of ideographs is a label in normal form, with an ASCII form of its own. -/
theorem asciiName?_ideographs (all : ∀ c ∈ name, isIdeograph c = true) (filled : name ≠ [])
    (short : name.length ≤ maxLength) : asciiName? name = some (asciiMark ++ Punycode.encode name) := by
  have single : '.' ∉ name := fun dot => absurd (all '.' dot) (by decide)
  obtain ⟨first, rest, rfl⟩ := List.exists_cons_of_ne_nil filled
  have hf := all first List.mem_cons_self
  have unmarked : after? asciiMark (first :: rest) = none := by
    rw [asciiMark, after?, if_neg]
    rintro rfl
    revert hf
    decide
  have beyond : isAscii (first :: rest) = false := by
    have := ideographs_wide all first List.mem_cons_self
    simp only [isAscii, List.all_cons, Bool.and_eq_false_iff, decide_eq_false_iff_not]
    omega
  have sound : isSound (first :: rest) = true := by
    simpa [isSound, isMark_ideograph hf, unmarked, joinersFit_ideographs [] all] using short
  have label : label? (first :: rest)
      = some ⟨first :: rest, asciiMark ++ Punycode.encode (first :: rest)⟩ := by
    rw [label?, unmarked]
    simp only [beyond, sound]
    rfl
  have oneWay : isTwoWay [first :: rest] = false := by
    refine List.any_eq_false.2 fun s hs => ?_
    rw [List.mem_singleton.1 hs, Bool.not_eq_true, List.any_eq_false]
    intro c hc
    rw [directionOf_ideograph (all c hc)]
    exact Bool.false_ne_true
  have allowed : (asciiMark ++ Punycode.encode (first :: rest)).any isForbidden = false := by
    have marked : asciiMark.any isForbidden = false := by decide
    rw [List.any_append, marked, Bool.false_or, List.any_eq_false]
    intro c hc
    rw [(ascii_of_isDigit (isDigit_of_mem_form all hc)).2.2.2]
    exact Bool.false_ne_true
  rw [asciiName?_label (fun c hc => meaning?_ideograph (all c hc)) (normal_ideographs all) single,
    label, Option.bind_some, oneWay, allowed, Bool.false_and, Bool.false_or,
    if_neg Bool.false_ne_true]

theorem asciiName?_long {form : List Char} (digits : ∀ c ∈ form, Punycode.IsDigit c)
    (long : maxAsciiLength < form.length) : asciiName? (asciiMark ++ form) = none := by
  have marked : ∀ c ∈ asciiMark, c.toNat < 0x80 ∧ c.toLower = c ∧ c ≠ '.' := by decide
  have chars : ∀ c ∈ asciiMark ++ form, c.toNat < 0x80 ∧ c.toLower = c ∧ c ≠ '.' := by
    intro c hc
    rcases List.mem_append.1 hc with hc | hc
    · exact marked c hc
    · obtain ⟨small, lower, dot, -⟩ := ascii_of_isDigit (digits c hc)
      exact ⟨small, lower, dot⟩
  have plain : ∀ c ∈ asciiMark ++ form, meaning? c = some [c] := by
    intro c hc
    obtain ⟨small, lower, -⟩ := chars c hc
    simp only [meaning?, if_pos small, lower]
  have whole := normal_of_ascii fun c hc => (chars c hc).1
  have none : label? (asciiMark ++ form) = none := by
    rw [label?, after?_eq_some_iff.2 rfl]
    dsimp only
    split
    · rw [ofAscii?, if_pos long]
      rfl
    · rfl
  rw [asciiName?_label plain whole fun dot => (chars '.' dot).2.2 rfl, none]
  rfl

end MapLayer.Url.Domain
