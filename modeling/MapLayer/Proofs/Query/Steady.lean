import Mathlib
import MapLayer.Proofs.Text.Steady
import MapLayer.Query.Parser

/-!
Reading queries in front of white space. Main statement: white space behind a query is left behind it, and
changes nothing of what is read.
-/

namespace MapLayer

open MapLayer.Text MapLayer.Query

namespace Text

theorem toLower_of_isBlank {c : Char} (blank : isBlank c = true) : c.toLower = c := by
  rw [Char.toLower, dif_neg]
  rintro ⟨low, high⟩
  have low : 65 ≤ c.toNat := low
  have high : c.toNat ≤ 90 := high
  simp [isBlank] at blank
  omega

end Text

namespace Clause

variable {α β : Type} {atom : Reader α} {s w word : List Char}

theorem isBlank_skip (blank : ∀ c ∈ w, isBlank c = true) : ∀ c ∈ skip w, isBlank c = true :=
  fun c hc => blank c ((List.dropWhile_sublist _).subset hc)

theorem steadyAt_skip {f : List Char → Option (β × List Char)} (none : f [] = none)
    (h : SteadyAt f (skip s)) : SteadyAt (fun s => f (skip s)) s := by
  intro w blank
  simp only [skip, List.dropWhile_append]
  split
  · rename_i empty
    have nothing : skip s = [] := List.isEmpty_iff.1 empty
    rw [nothing] at h
    rw [← skip, ← skip, h.blanks none (isBlank_skip blank), nothing, none]
    rfl
  · exact h w blank

theorem afterWord?_blanks (solid : ∀ c ∈ word, isBlank c = false)
    (blank : ∀ c ∈ w, isBlank c = true) (s : List Char) :
    afterWord? word (s ++ w) = (afterWord? word s).map (· ++ w) := by
  fun_induction afterWord? word s with
  | case1 s => rfl
  | case2 c word =>
    -- the word would go on in the white space
    cases w with
    | nil => rfl
    | cons d w =>
      have here := blank d List.mem_cons_self
      have other : d.toLower ≠ c := by
        rw [toLower_of_isBlank here]
        rintro rfl
        simp [here] at solid
      exact if_neg other
  | case3 word d s ih =>
    rw [List.cons_append, afterWord?, if_pos rfl]
    exact ih (List.forall_mem_cons.1 solid).2
  | case4 c word d s other => rw [List.cons_append, afterWord?, if_neg other]; rfl

def behind (word : List Char) (f : List Char → Option (β × List Char)) (s : List Char) :
    Option (β × List Char) :=
  (afterKeyword? word s).bind fun r => f (skip r)

theorem length_of_behind {f : List Char → Option (β × List Char)} {b : β} {rest : List Char}
    (shorter : ∀ t u, f t = some u → u.2.length < t.length) (h : behind word f s = some (b, rest)) :
    rest.length < s.length := by
  obtain ⟨r, after, read⟩ := Option.bind_eq_some_iff.1 h
  have left : rest.length < (skip r).length := shorter _ _ read
  have := length_skip_le r
  have := length_afterKeyword? after
  omega

/-- A keyword at the end of the text becomes one in front of spacing, but nothing is read after it. -/
theorem steadyAt_behind {f : List Char → Option (β × List Char)}
    (solid : ∀ c ∈ word, isBlank c = false) (nonempty : word ≠ []) (none : f [] = none)
    (shorter : ∀ t, t.length < s.length → SteadyAt f t) : SteadyAt (behind word f) s := by
  intro w blank
  simp only [behind, afterKeyword?, afterWord?_blanks solid blank]
  cases after : afterWord? word s with
  | none => rfl
  | some r =>
    have longer : r.length < s.length := by
      have := length_afterWord? after
      have := List.length_pos_iff.2 nonempty
      omega
    cases r with
    | nil =>
      cases w with
      | nil => rfl
      | cons c w =>
        have unread := (shorter [] longer).blanks none (isBlank_skip blank)
        simp only [Option.map_some, List.nil_append]
        split <;> simp [unread]
    | cons c r =>
      simp only [Option.map_some, List.cons_append]
      split
      · have rest := shorter _ (Nat.lt_of_le_of_lt (length_skip_le _) longer)
        exact steadyAt_skip none rest w blank
      · rfl

def kept (k : Kept β s) : β × List Char := (k.value, k.rest)

/-- Operands that stand after a word each, as many as can be read. -/
def row (word : List Char) (operand : List Char → Option (β × List Char))
    (others : List Char → List β × List Char) (s : List Char) : Option (List β × List Char) :=
  (andThen (fun s => behind word operand (skip s))
    (fun c rest => (some (others rest)).map (Prod.map (c :: ·) id)) s).or (some ([], s))

section equations

variable (atom)

theorem found_readOr : found (readOr atom) = andThen (found (readAnd atom)) fun c rest =>
    (some (kept (readOrs atom rest))).map (Prod.map (joined .or c) id) := by
  funext s
  rw [found, readOr, andThen, found]
  cases readAnd atom s <;> rfl

theorem found_readAnd : found (readAnd atom) = andThen (found (readNot atom)) fun c rest =>
    (some (kept (readAnds atom rest))).map (Prod.map (joined .and c) id) := by
  funext s
  rw [found, readAnd, andThen, found]
  cases readNot atom s <;> rfl

theorem kept_readOrs (s : List Char) : some (kept (readOrs atom s)) =
    row ['o', 'r'] (found (readAnd atom)) (fun s => kept (readOrs atom s)) s := by
  rw [readOrs, row, andThen, behind]
  split
  · rename_i absent
    rw [absent]
    rfl
  · rename_i r present
    simp only [present, Option.bind_some, found]
    cases readAnd atom (skip r) <;> rfl

theorem kept_readAnds (s : List Char) : some (kept (readAnds atom s)) =
    row ['a', 'n', 'd'] (found (readNot atom)) (fun s => kept (readAnds atom s)) s := by
  rw [readAnds, row, andThen, behind]
  split
  · rename_i absent
    rw [absent]
    rfl
  · rename_i r present
    simp only [present, Option.bind_some, found]
    cases readNot atom (skip r) <;> rfl

theorem found_readNegation : found (readNegation atom) = fun s =>
    (behind ['n', 'o', 't'] (found (readNot atom)) s).map (Prod.map .not id) := by
  funext s
  rw [found, readNegation, behind]
  split
  · rename_i absent
    rw [absent]
    rfl
  · rename_i r present
    simp only [present, Option.bind_some, found]
    cases readNot atom (skip r) <;> rfl

theorem found_readGroup : found (readGroup atom) = andThen (sign '(') fun _ r =>
    andThen (fun r => found (readOr atom) (skip r))
      (fun c rest => (sign ')' (skip rest)).map (Prod.map (fun _ => c) id)) r := by
  funext s
  unfold found andThen
  unfold readGroup
  split
  · rename_i r
    simp only [sign_cons_self, Option.bind_some]
    cases readOr atom (skip r) with
    | none => rfl
    | some c =>
      simp only [Option.map_some, Option.bind_some]
      split
      · rename_i t close
        simp [close]
      · rename_i unclosed
        simp [sign_eq_none unclosed]
  · rename_i unopened
    rw [sign_eq_none unopened]
    rfl

theorem found_readNot : found (readNot atom) = fun s =>
    ((found (readNegation atom) s).or (found (readGroup atom) s)).or
      ((found atom s).map (Prod.map .atom id)) := by
  funext s
  rw [found, readNot, found, found, found]
  cases readNegation atom s with
  | some c => rfl
  | none =>
    cases readGroup atom s with
    | some c => rfl
    | none => cases atom s <;> rfl

end equations

theorem steadyAt_row {operand : Reader (Clause α)} {others : List Char → List (Clause α) × List Char}
    (solid : ∀ c ∈ word, isBlank c = false) (nonempty : word ≠ [])
    (first : ∀ t, t.length < s.length → SteadyAt (found operand) t)
    (more : ∀ t, t.length < s.length → SteadyAt (fun s => some (others s)) t) :
    SteadyAt (row word (found operand) others) s := by
  have within := length_skip_le s
  have next : SteadyAt (behind word (found operand)) (skip s) :=
    steadyAt_behind solid nonempty (found_nil _) fun t shorter => first t (by omega)
  have none : behind word (found operand) [] = .none := by
    cases word with
    | nil => exact absurd rfl nonempty
    | cons c word => rfl
  refine .or (.andThen (steadyAt_skip none next) fun c rest read => .map (more rest ?_) _)
    (steadyAt_pure _ _)
  have := length_of_behind (fun t u => length_of_found) read
  omega

structure Steady (atom : Reader α) (s : List Char) : Prop where
  or : SteadyAt (found (readOr atom)) s
  ors : SteadyAt (fun s => some (kept (readOrs atom s))) s
  and : SteadyAt (found (readAnd atom)) s
  ands : SteadyAt (fun s => some (kept (readAnds atom s))) s
  not : SteadyAt (found (readNot atom)) s

theorem steadyAt_readNegation (shorter : ∀ t, t.length < s.length → SteadyAt (found (readNot atom)) t) :
    SteadyAt (found (readNegation atom)) s := by
  rw [found_readNegation]
  exact .map (steadyAt_behind (by simp [isBlank]) (by simp) (found_nil _) shorter) _

theorem steadyAt_readGroup (shorter : ∀ t, t.length < s.length → SteadyAt (found (readOr atom)) t) :
    SteadyAt (found (readGroup atom)) s := by
  rw [found_readGroup]
  refine .andThen (steadyAt_sign rfl s) fun _ r opened => ?_
  have inside := shorter _ (Nat.lt_of_le_of_lt (length_skip_le r) (length_of_sign opened))
  refine .andThen (steadyAt_skip (found_nil _) inside) fun c rest _ => .map ?_ _
  exact steadyAt_skip rfl (steadyAt_sign rfl _)

/-- White space behind a combination is left behind it, if that holds for atoms. -/
theorem steady (atoms : ∀ s, SteadyAt (found atom) s) (s : List Char) : Steady atom s := by
  induction h : s.length using Nat.strong_induction_on generalizing s with
  | _ n ih =>
    have ih (t : List Char) (shorter : t.length < s.length) : Steady atom t := ih _ (h ▸ shorter) t rfl
    have not : SteadyAt (found (readNot atom)) s := by
      rw [found_readNot]
      exact .or (.or (steadyAt_readNegation fun t ht => (ih t ht).not)
        (steadyAt_readGroup fun t ht => (ih t ht).or)) (.map (atoms s) _)
    have ands : SteadyAt (fun s => some (kept (readAnds atom s))) s := by
      rw [funext (kept_readAnds atom)]
      exact steadyAt_row (by simp [isBlank]) (by simp) (fun t ht => (ih t ht).not)
        fun t ht => (ih t ht).ands
    have and : SteadyAt (found (readAnd atom)) s := by
      rw [found_readAnd]
      exact .andThen not fun c rest read => .map (ih rest (length_of_found read)).ands _
    have ors : SteadyAt (fun s => some (kept (readOrs atom s))) s := by
      rw [funext (kept_readOrs atom)]
      exact steadyAt_row (by simp [isBlank]) (by simp) (fun t ht => (ih t ht).and)
        fun t ht => (ih t ht).ors
    have or : SteadyAt (found (readOr atom)) s := by
      rw [found_readOr]
      exact .andThen and fun c rest read => .map (ih rest (length_of_found read)).ors _
    exact ⟨or, ors, and, ands, not⟩

end Clause

namespace Query

open Clause

variable {s : List Char}

theorem steadyAt_spanReader {p : Char → Bool} (solid : ∀ c, isBlank c = true → p c = false) (s : List Char) :
    SteadyAt (found (spanReader p)) s := by
  intro w blank
  have outside : w.takeWhile p = [] ∧ w.dropWhile p = w := by
    cases w with
    | nil => exact ⟨rfl, rfl⟩
    | cons c w => simp [solid c (blank c List.mem_cons_self)]
  cases s with
  | nil =>
    cases w with
    | nil => rfl
    | cons c w => simp [found, spanReader, solid c (blank c List.mem_cons_self)]
  | cons c s =>
    have taken : (s ++ w).takeWhile p = s.takeWhile p := by
      rw [List.takeWhile_append, outside.1, List.append_nil]
      split
      · rename_i whole
        exact ((List.takeWhile_prefix p).eq_of_length whole).symm
      · rfl
    have left : (s ++ w).dropWhile p = s.dropWhile p ++ w := by
      rw [List.dropWhile_append, outside.2]
      split
      · rename_i empty
        rw [List.isEmpty_iff.1 empty, List.nil_append]
      · rfl
    simp only [found, spanReader, List.cons_append, taken, left]
    split <;> rfl

theorem isBlank_unquoted {c : Char} (blank : isBlank c = true) : c ≠ '"' ∧ c ≠ '\\' := by
  constructor <;> (rintro rfl; contradiction)

theorem quotedText?_eq_none {s : List Char} (unclosed : ∀ c ∈ s, c ≠ '"' ∧ c ≠ '\\') :
    quotedText? s = none := by
  induction s with
  | nil => rfl
  | cons c s ih =>
    obtain ⟨⟨quote, backslash⟩, others⟩ := List.forall_mem_cons.1 unclosed
    rw [quotedText?, if_neg (by simpa using backslash), ih others]
    · rfl
    · exact quote
    · rintro d t e
      exact absurd e backslash

theorem steadyAt_quotedText? (s : List Char) : SteadyAt quotedText? s := by
  intro w blank
  have unclosed := quotedText?_eq_none fun c hc => isBlank_unquoted (blank c hc)
  fun_induction quotedText? s with
  | case1 => rfl
  | case2 c r escaped ih =>
    simp only [List.cons_append, quotedText?, if_pos escaped, ih, Option.map_map]
    rfl
  | case3 c r plain => simp only [List.cons_append, quotedText?, if_neg plain, Option.map_none]
  | case4 c r quote alone backslash =>
    -- a backslash ends the text, and white space is no character to escape
    obtain rfl := beq_iff_eq.1 backslash
    cases r with
    | cons d r => exact (alone d r rfl rfl).elim
    | nil =>
      cases w with
      | nil => rfl
      | cons d w =>
        obtain ⟨quote, backslash⟩ := isBlank_unquoted (blank d List.mem_cons_self)
        exact if_neg (by simp [quote, backslash])
  | case5 c r quote _ plain ih =>
    have other : ∀ (d : Char) (t : List Char), c = '\\' → r ++ w = d :: t → False :=
      fun _ _ e => absurd (beq_iff_eq.2 e) plain
    rw [List.cons_append, quotedText?.eq_3 c (r ++ w) quote other, if_neg plain, ih]
    simp only [Option.map_map]
    rfl
  | case6 => exact unclosed

theorem isBareChar_of_isBlank {c : Char} (blank : isBlank c = true) : isBareChar c = false := by
  simp [isBareChar, blank]

def blankCodes : List ℕ :=
  [9, 10, 11, 12, 13, 0x20, 0x85, 0xA0, 0x1680, 0x2000, 0x2001, 0x2002, 0x2003, 0x2004, 0x2005, 0x2006,
    0x2007, 0x2008, 0x2009, 0x200A, 0x2028, 0x2029, 0x202F, 0x205F, 0x3000]

theorem toNat_mem_blankCodes {c : Char} (blank : isBlank c = true) : c.toNat ∈ blankCodes := by
  simp only [isBlank, Bool.or_eq_true, Bool.and_eq_true, decide_eq_true_eq, beq_iff_eq] at blank
  simp only [blankCodes, List.mem_cons, List.not_mem_nil, or_false]
  omega

theorem not_isFieldChar_blankCodes : blankCodes.all (fun n => !isFieldChar (Char.ofNat n)) = true := by
  decide +kernel

theorem isFieldChar_of_isBlank {c : Char} (blank : isBlank c = true) : isFieldChar c = false := by
  have outside := List.all_eq_true.1 not_isFieldChar_blankCodes _ (toNat_mem_blankCodes blank)
  rwa [Char.ofNat_toNat, Bool.not_eq_true'] at outside

section equations

/-- A sign that an equals sign goes on with is tried first. -/
theorem found_operatorReader : found operatorReader = fun s =>
    ((andThen (sign '<') (fun _ => sign '=') s).map (Prod.map (fun _ => .lessOrEqual) id)).or
      (((andThen (sign '>') (fun _ => sign '=') s).map (Prod.map (fun _ => .greaterOrEqual) id)).or
        (((sign '<' s).map (Prod.map (fun _ => .less) id)).or
          ((sign '>' s).map (Prod.map (fun _ => .greater) id)))) := by
  funext s
  unfold found operatorReader andThen
  split
  · rfl
  · rfl
  · rename_i r longer
    have single : sign '=' r = none := sign_eq_none fun t e => longer t (e ▸ rfl)
    simp [single, sign_cons_of_ne]
  · rename_i r longer
    have single : sign '=' r = none := sign_eq_none fun t e => longer t (e ▸ rfl)
    simp [single, sign_cons_of_ne]
  · rename_i less greater
    simp [sign_eq_none less, sign_eq_none greater]

theorem found_quotedReader : found quotedReader = andThen (sign '"') fun _ r =>
    (quotedText? r).map (Prod.map (fun cs => .quoted (String.ofList cs)) id) := by
  funext s
  unfold found quotedReader andThen
  split
  · rename_i r
    rw [sign_cons_self, Option.bind_some]
    split
    · rename_i open'
      simp [open']
    · rename_i cs rest closed
      simp [closed]
  · rename_i bare
    rw [sign_eq_none bare]
    rfl

theorem found_termReader : found termReader = fun s =>
    (found quotedReader s).or ((found (spanReader isBareChar) s).map (Prod.map .bare id)) := by
  funext s
  rw [found, termReader, found, found]
  cases quotedReader s with
  | some t => rfl
  | none => cases spanReader isBareChar s <;> rfl

theorem found_valuesReader : found valuesReader = fun s =>
    (found (readGroup termReader) s).or ((found termReader s).map (Prod.map .atom id)) := by
  funext s
  rw [found, valuesReader, found, found]
  cases readGroup termReader s with
  | some c => rfl
  | none => cases termReader s <;> rfl

theorem found_rangeReader (field : String) :
    found (rangeReader field) = andThen (found operatorReader) fun sign rest =>
      (found termReader (skip rest)).map (Prod.map (.range field sign) id) := by
  funext s
  rw [found, rangeReader, andThen, found]
  cases operatorReader s with
  | none => rfl
  | some sign =>
    simp only [Option.map_some, Option.bind_some, found]
    cases termReader (skip sign.rest) <;> rfl

theorem found_matchReader (field : String) :
    found (matchReader field) = andThen (sign ':') fun _ rest =>
      (found valuesReader (skip rest)).map (Prod.map (.values field) id) := by
  funext s
  unfold found matchReader andThen
  split
  · rename_i r
    simp only [sign_cons_self, Option.bind_some]
    cases valuesReader (skip r) <;> rfl
  · rename_i other
    rw [sign_eq_none other]
    rfl

theorem found_fieldReader :
    found fieldReader = andThen (found (spanReader isFieldChar)) fun field rest =>
      (found (rangeReader field) (skip rest)).or (found (matchReader field) (skip rest)) := by
  funext s
  rw [found, fieldReader, andThen, found]
  cases spanReader isFieldChar s with
  | none => rfl
  | some field =>
    simp only [Option.map_some, Option.bind_some, found]
    cases rangeReader field.value (skip field.rest) with
    | some t => rfl
    | none => cases matchReader field.value (skip field.rest) <;> rfl

end equations

theorem steadyAt_termReader (s : List Char) : SteadyAt (found termReader) s := by
  rw [found_termReader, found_quotedReader]
  refine .or (.andThen (steadyAt_sign rfl s) fun _ r _ => .map (steadyAt_quotedText? r) _) (.map ?_ _)
  exact steadyAt_spanReader (fun _ => isBareChar_of_isBlank) s

theorem steadyAt_valuesReader (s : List Char) : SteadyAt (found valuesReader) s := by
  rw [found_valuesReader]
  refine .or ?_ (.map (steadyAt_termReader s) _)
  exact steadyAt_readGroup fun t _ => (steady steadyAt_termReader t).or

theorem steadyAt_fieldReader (s : List Char) : SteadyAt (found fieldReader) s := by
  rw [found_fieldReader]
  refine .andThen (steadyAt_spanReader (fun _ => isFieldChar_of_isBlank) s) fun field rest _ => .or ?_ ?_
  · refine steadyAt_skip (found_nil _) ?_
    rw [found_rangeReader]
    refine .andThen ?_ fun sign t _ => .map (steadyAt_skip (found_nil _) (steadyAt_termReader _)) _
    rw [found_operatorReader]
    have equals (_ : Unit) (r : List Char) : SteadyAt (sign '=') r := steadyAt_sign rfl r
    exact .or (.map (.andThen (steadyAt_sign rfl _) fun u r _ => equals u r) _)
      (.or (.map (.andThen (steadyAt_sign rfl _) fun u r _ => equals u r) _)
        (.or (.map (steadyAt_sign rfl _) _) (.map (steadyAt_sign rfl _) _)))
  · refine steadyAt_skip (found_nil _) ?_
    rw [found_matchReader]
    refine .andThen (steadyAt_sign rfl _) fun _ t _ => .map ?_ _
    exact steadyAt_skip (found_nil _) (steadyAt_valuesReader _)

theorem steadyAt_query (s : List Char) : SteadyAt (fun s => found (readOr fieldReader) (skip s)) s :=
  steadyAt_skip (found_nil _) (steady steadyAt_fieldReader _).or

end Query

end MapLayer
