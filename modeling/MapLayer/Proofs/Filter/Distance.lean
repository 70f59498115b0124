import MapLayer.Proofs.Filter.Clauses

/-!
What is read of a distance. Main statement: the number is a whole numeral of the text exactly if a unit stands
behind that numeral; otherwise its last digit is taken for the unit.
-/

namespace MapLayer.Distance

open MapLayer.Text

structure IsNumeral (s : List Char) : Prop where
  filled : s ≠ []
  numeric : ∀ c ∈ s, isNumeric c = true

/-- Word characters, the first of which is no digit. -/
structure IsUnit (s : List Char) : Prop where
  filled : s ≠ []
  word : ∀ c ∈ s, isWord c = true
  apart : ∀ c ∈ s.head?, isNumeric c = false

/-- A numeral where it stands in a text: as many digits and dots as there are together. -/
structure NumeralAt (s before numeral after : List Char) : Prop extends IsNumeral numeral where
  text : s = before ++ numeral ++ after
  left : ∀ c ∈ before.getLast?, isNumeric c = false
  right : ∀ c ∈ after.head?, isNumeric c = false

def HasUnit (after : List Char) : Prop := ∃ c ∈ after.head?, isWord c = true

/-- What is read of a numeral and the text behind it: the numeral and the word there, or, without a word,
the numeral up to its last digit and that digit as the word. -/
inductive Reads (numeral after : List Char) : List Char → List Char → Prop
  | whole (unit : HasUnit after) : Reads numeral after numeral (after.takeWhile isWord)
  | shortened {number dots : List Char} {d : Char} (none : ¬ HasUnit after)
      (text : numeral = number ++ d :: dots) (filled : number ≠ []) (digit : isDecimal d = true)
      (last : ∀ c ∈ dots, isDecimal c = false) : Reads numeral after number [d]

/-- A numeral of which something is read, without another one before it. -/
structure FirstRead (s before numeral after number unit : List Char) : Prop
    extends NumeralAt s before numeral after where
  reads : Reads numeral after number unit
  first : ∀ b n a, NumeralAt s b n a → b.length < before.length → ∀ m u, ¬ Reads n a m u

theorem isWord_of_isDecimal {c : Char} (h : isDecimal c = true) : isWord c = true := by
  unfold isDecimal at h
  unfold isWord
  split at h
  · rename_i ascii
    have plain : c.isAlphanum = true := by simp [Char.isAlphanum, h]
    rw [if_pos ascii, plain, Bool.true_or]
  · rename_i beyond
    have digit : isDecimal c = true := by rw [isDecimal, if_neg beyond, h]
    rw [if_neg beyond, digit, Bool.or_true, Bool.true_or]

theorem giveBack?_eq_none_iff {s : List Char} :
    giveBack? s = none ↔ ∀ c ∈ s.tail, isDecimal c = false := by
  fun_induction giveBack? s with
  | case1 => simp
  | case2 c s front back found ih =>
    obtain ⟨d, hd, digit⟩ : ∃ d ∈ s.tail, isDecimal d = true := by simpa [found] using ih
    simpa using ⟨d, List.mem_of_mem_tail hd, digit⟩
  | case3 c d s digit none ih => simp [digit]
  | case4 c d s other none ih =>
    have later : ∀ c ∈ s, isDecimal c = false := ih.1 none
    simpa [other] using later
  | case5 => simp

theorem eq_of_last_digit {front front' dots dots' : List Char} {d d' : Char}
    (same : front ++ d :: dots = front' ++ d' :: dots') (digit : isDecimal d = true)
    (digit' : isDecimal d' = true) (last : ∀ c ∈ dots, isDecimal c = false)
    (last' : ∀ c ∈ dots', isDecimal c = false) : front = front' ∧ d = d' := by
  rcases List.append_eq_append_iff.1 same with ⟨t, longer, rest⟩ | ⟨t, longer, rest⟩
  · cases t with
    | nil => simp_all
    | cons e t =>
      obtain ⟨-, rfl⟩ := List.cons.inj rest
      simp [last d' (by simp)] at digit'
  · cases t with
    | nil => simp_all
    | cons e t =>
      obtain ⟨-, rfl⟩ := List.cons.inj rest
      simp [last' d (by simp)] at digit

theorem split_of_giveBack? {s number unit : List Char} (h : giveBack? s = some (number, unit)) :
    ∃ d dots, s = number ++ d :: dots ∧ number ≠ [] ∧ isDecimal d = true ∧
      (∀ c ∈ dots, isDecimal c = false) ∧ unit = [d] := by
  fun_induction giveBack? s generalizing number unit with
  | case1 => contradiction
  | case2 c s front back found ih =>
    obtain ⟨rfl, rfl⟩ := Prod.mk.inj (Option.some.inj h)
    obtain ⟨d, dots, rfl, -, digit, last, rfl⟩ := ih found
    exact ⟨d, dots, rfl, by simp, digit, last, rfl⟩
  | case3 c d s digit none ih =>
    obtain ⟨rfl, rfl⟩ := Prod.mk.inj (Option.some.inj h)
    exact ⟨d, s, rfl, by simp, digit, giveBack?_eq_none_iff.1 none, rfl⟩
  | case4 => contradiction
  | case5 => contradiction

theorem giveBack?_eq_some_iff {s number unit : List Char} :
    giveBack? s = some (number, unit) ↔ ∃ d dots, s = number ++ d :: dots ∧ number ≠ [] ∧
      isDecimal d = true ∧ (∀ c ∈ dots, isDecimal c = false) ∧ unit = [d] := by
  constructor
  · exact split_of_giveBack?
  · rintro ⟨d, dots, text, filled, digit, last, rfl⟩
    cases found : giveBack? s with
    | none =>
      obtain ⟨c, number, rfl⟩ := List.exists_cons_of_ne_nil filled
      have member : d ∈ s.tail := by simp [text]
      simp [giveBack?_eq_none_iff.1 found d member] at digit
    | some parts =>
      obtain ⟨number', unit'⟩ := parts
      obtain ⟨d', dots', text', -, digit', last', rfl⟩ := split_of_giveBack? found
      obtain ⟨rfl, rfl⟩ := eq_of_last_digit (text.symm.trans text') digit digit' last last'
      rfl

section numerals

variable {s before numeral after b n a : List Char}

theorem IsNumeral.takeWhile_append (number : IsNumeral numeral)
    (right : ∀ c ∈ after.head?, isNumeric c = false) :
    (numeral ++ after).takeWhile isNumeric = numeral := by
  rw [List.takeWhile_append_of_pos number.numeric]
  cases after with
  | nil => simp
  | cons c after => simp [right c rfl]

theorem numeralAt_first {d : Char} {r : List Char} (start : s.dropWhile (!isNumeric ·) = d :: r) :
    NumeralAt s (s.takeWhile (!isNumeric ·)) (d :: r.takeWhile isNumeric) (r.dropWhile isNumeric) where
  filled := List.cons_ne_nil _ _
  numeric := fun c hc => isNumeric_numeral start hc
  text := by
    have whole : s.takeWhile (!isNumeric ·) ++ s.dropWhile (!isNumeric ·) = s :=
      List.takeWhile_append_dropWhile
    rw [List.append_assoc, List.cons_append, List.takeWhile_append_dropWhile, ← start, whole]
  left := fun c hc => by
    simpa using List.all_eq_true.1 List.all_takeWhile c (List.mem_of_mem_getLast? hc)
  right := fun c hc => by
    have first := List.head?_dropWhile_not isNumeric r
    rw [hc] at first
    exact first

theorem NumeralAt.behind (front : NumeralAt s before numeral after) (later : NumeralAt after b n a) :
    NumeralAt s (before ++ numeral ++ b) n a where
  toIsNumeral := later.toIsNumeral
  text := by rw [front.text, later.text]; simp
  left := by
    cases b with
    | nil =>
      obtain ⟨c, n', rfl⟩ := List.exists_cons_of_ne_nil later.filled
      have start : after.head? = some c := by simp [later.text]
      have clash := front.right c start
      rw [later.numeric c List.mem_cons_self] at clash
      cases clash
    | cons c b =>
      rw [List.getLast?_append_cons]
      exact later.left
  right := later.right

theorem NumeralAt.eq_of_append (front : NumeralAt s before numeral after) (other : NumeralAt s b n a)
    (same : numeral ++ after = n ++ a) : n = numeral ∧ a = after := by
  have whole : n = numeral := by
    rw [← other.toIsNumeral.takeWhile_append other.right, ← same,
      front.toIsNumeral.takeWhile_append front.right]
  subst whole
  exact ⟨rfl, (List.append_cancel_left same).symm⟩

theorem NumeralAt.first_or_behind (front : NumeralAt s before numeral after)
    (blank : ∀ c ∈ before, isNumeric c = false) (other : NumeralAt s b n a) :
    (b = before ∧ n = numeral ∧ a = after) ∨
      ∃ t, b = before ++ numeral ++ t ∧ NumeralAt after t n a := by
  -- the character before a numeral is not part of one
  have outside {u : List Char} {c : Char} (end' : b = u ++ [c]) : c ∉ numeral := fun member => by
    have clash := other.left c (by simp [end'])
    rw [front.numeric c member] at clash
    cases clash
  have same : before ++ (numeral ++ after) = b ++ (n ++ a) := by
    rw [← List.append_assoc, ← List.append_assoc, ← front.text, ← other.text]
  rcases List.append_eq_append_iff.1 same with ⟨t, start, rest⟩ | ⟨t, start, rest⟩
  · rcases List.append_eq_append_iff.1 rest with ⟨u, rfl, behind⟩ | ⟨u, inside, behind⟩
    · cases u using List.reverseRecOn with
      | nil =>
        rcases List.eq_nil_or_concat numeral with none | ⟨m, c, last⟩
        · exact absurd none front.filled
        · have member : c ∈ numeral := by simp [last]
          have end' : b = before ++ m ++ [c] := by simp [start, last]
          exact absurd member (outside end')
      | append_singleton u c =>
        refine .inr ⟨u ++ [c], by simp [start], other.toIsNumeral, by simpa using behind, ?_, other.right⟩
        intro d hd
        exact other.left d (by simpa [start] using hd)
    · cases t using List.reverseRecOn with
      | nil =>
        rw [List.append_nil] at start
        exact .inl ⟨start, front.eq_of_append other rest⟩
      | append_singleton t c =>
        have member : c ∈ numeral := by simp [inside]
        have end' : b = before ++ t ++ [c] := by simp [start]
        exact absurd member (outside end')
  · cases t with
    | nil =>
      rw [List.append_nil] at start
      exact .inl ⟨start.symm, front.eq_of_append other rest.symm⟩
    | cons c t =>
      obtain ⟨d, m, rfl⟩ := List.exists_cons_of_ne_nil other.filled
      obtain ⟨rfl, -⟩ := List.cons.inj rest
      have clash := blank d (by simp [start])
      rw [other.numeric d List.mem_cons_self] at clash
      cases clash

end numerals

section reading

variable {s before numeral after number unit number' unit' b n a : List Char}

theorem takeWhile_isWord_eq_nil_iff : after.takeWhile isWord = [] ↔ ¬ HasUnit after := by
  cases after with
  | nil => simp [HasUnit]
  | cons c after => simp [HasUnit, List.takeWhile_cons]

theorem Reads.unique (reads : Reads numeral after number unit) (reads' : Reads numeral after number' unit') :
    number = number' ∧ unit = unit' := by
  cases reads with
  | whole has =>
    cases reads' with
    | whole => exact ⟨rfl, rfl⟩
    | shortened none => exact absurd has none
  | shortened none text filled digit last =>
    cases reads' with
    | whole has => exact absurd has none
    | shortened none' text' filled' digit' last' =>
      obtain ⟨rfl, rfl⟩ := eq_of_last_digit (text.symm.trans text') digit digit' last last'
      exact ⟨rfl, rfl⟩

theorem reads_of_giveBack? (none : ¬ HasUnit after) (given : giveBack? numeral = some (number, unit)) :
    Reads numeral after number unit := by
  obtain ⟨d, dots, text, filled, digit, last, rfl⟩ := giveBack?_eq_some_iff.1 given
  exact .shortened none text filled digit last

theorem not_reads (none : ¬ HasUnit after) (kept : giveBack? numeral = Option.none) :
    ¬ Reads numeral after number unit := by
  rintro (has | ⟨-, text, filled, digit, last⟩)
  · exact none has
  · rw [giveBack?_eq_some_iff.2 ⟨_, _, text, filled, digit, last, rfl⟩] at kept
    cases kept

theorem FirstRead.of_blank (front : NumeralAt s before numeral after)
    (blank : ∀ c ∈ before, isNumeric c = false) (reads : Reads numeral after number unit) :
    FirstRead s before numeral after number unit := by
  refine ⟨front, reads, fun b n a other earlier => ?_⟩
  rcases front.first_or_behind blank other with ⟨rfl, -, -⟩ | ⟨t, rfl, -⟩
  · omega
  · simp only [List.length_append] at earlier
    omega

theorem FirstRead.behind (front : NumeralAt s before numeral after)
    (blank : ∀ c ∈ before, isNumeric c = false) (unread : ∀ m u, ¬ Reads numeral after m u)
    (later : FirstRead after b n a number unit) :
    FirstRead s (before ++ numeral ++ b) n a number unit := by
  refine ⟨front.behind later.toNumeralAt, later.reads, fun b' n' a' other earlier => ?_⟩
  rcases front.first_or_behind blank other with ⟨-, rfl, rfl⟩ | ⟨t, rfl, behind⟩
  · exact unread
  · simp only [List.length_append] at earlier
    exact later.first t n' a' behind (by omega)

theorem FirstRead.unique (read : FirstRead s before numeral after number unit)
    (read' : FirstRead s b n a number' unit') : number = number' ∧ unit = unit' := by
  have level : before.length = b.length := by
    rcases Nat.lt_trichotomy before.length b.length with less | same | more
    · exact absurd read.reads (read'.first _ _ _ read.toNumeralAt less _ _)
    · exact same
    · exact absurd read'.reads (read.first _ _ _ read'.toNumeralAt more _ _)
  have same : before ++ (numeral ++ after) = b ++ (n ++ a) := by
    rw [← List.append_assoc, ← List.append_assoc, ← read.text, ← read'.text]
  obtain ⟨rfl, rest⟩ := List.append_inj same level
  obtain ⟨rfl, rfl⟩ := read.toNumeralAt.eq_of_append read'.toNumeralAt rest
  exact read.reads.unique read'.reads

theorem blank_takeWhile (s : List Char) : ∀ c ∈ s.takeWhile (!isNumeric ·), isNumeric c = false :=
  fun c hc => by simpa using List.all_eq_true.1 List.all_takeWhile c hc

theorem firstRead_of_find? (h : find? s = some (number, unit)) :
    ∃ before numeral after, FirstRead s before numeral after number unit := by
  fun_induction find? s with
  | case1 => contradiction
  | case2 s d r start numeral rest none found given =>
    obtain rfl := Option.some.inj h
    exact ⟨_, _, _, .of_blank (numeralAt_first start) (blank_takeWhile s)
      (reads_of_giveBack? (takeWhile_isWord_eq_nil_iff.1 none) given)⟩
  | case3 s d r start numeral rest none kept ih =>
    obtain ⟨b, n, a, read⟩ := ih h
    exact ⟨_, n, a, .behind (numeralAt_first start) (blank_takeWhile s)
      (fun _ _ => not_reads (takeWhile_isWord_eq_nil_iff.1 none) kept) read⟩
  | case4 s d r start numeral rest filled =>
    obtain ⟨rfl, rfl⟩ := Prod.mk.inj (Option.some.inj h)
    have has : HasUnit rest := not_not.1 fun none => filled (takeWhile_isWord_eq_nil_iff.2 none)
    exact ⟨_, _, _, .of_blank (numeralAt_first start) (blank_takeWhile s) (.whole has)⟩

theorem not_reads_of_find? (h : find? s = none) :
    ∀ before numeral after, NumeralAt s before numeral after → ¬ Reads numeral after number unit := by
  fun_induction find? s with
  | case1 s none =>
    intro before numeral after place
    obtain ⟨c, n, rfl⟩ := List.exists_cons_of_ne_nil place.filled
    have outside : isNumeric c = false := by
      simpa using List.dropWhile_eq_nil_iff.1 none c (by simp [place.text])
    rw [place.numeric c List.mem_cons_self] at outside
    cases outside
  | case2 => contradiction
  | case3 s d r start numeral' rest none kept ih =>
    intro before numeral after place
    rcases (numeralAt_first start).first_or_behind (blank_takeWhile s) place with
      ⟨-, rfl, rfl⟩ | ⟨t, -, later⟩
    · exact not_reads (takeWhile_isWord_eq_nil_iff.1 none) kept
    · exact ih h t numeral after later
  | case4 => contradiction

/-- The number and the word that are found are what is read of the first numeral of which something is. -/
theorem find?_eq_some_iff : find? s = some (number, unit) ↔
    ∃ before numeral after, FirstRead s before numeral after number unit := by
  constructor
  · exact firstRead_of_find?
  · rintro ⟨before, numeral, after, read⟩
    cases found : find? s with
    | none => exact absurd read.reads (not_reads_of_find? found _ _ _ read.toNumeralAt)
    | some parts =>
      obtain ⟨_, _, _, read'⟩ := firstRead_of_find? found
      obtain ⟨rfl, rfl⟩ := read.unique read'
      rfl

theorem not_isWord_of_isNumeric {c : Char} (numeric : isNumeric c = true) (other : isDecimal c = false) :
    isWord c = false := by
  rw [isNumeric, other, Bool.false_or, beq_iff_eq] at numeric
  rw [numeric]
  decide

theorem isNumeric_of_isDecimal {c : Char} (h : isDecimal c = true) : isNumeric c = true := by
  rw [isNumeric, h, Bool.true_or]

/-- What is read as the unit is the word behind what is read as the number. -/
theorem Reads.word (reads : Reads numeral after number unit) (place : IsNumeral numeral) :
    unit ≠ [] ∧ (∀ c ∈ unit, isWord c = true) ∧ ∃ rest, numeral ++ after = number ++ (unit ++ rest) ∧
      ∀ c ∈ rest.head?, isWord c = false := by
  cases reads with
  | whole has =>
    refine ⟨fun none => takeWhile_isWord_eq_nil_iff.1 none has,
      fun c hc => List.all_eq_true.1 List.all_takeWhile c hc, after.dropWhile isWord,
      by rw [List.takeWhile_append_dropWhile], fun c hc => ?_⟩
    have first := List.head?_dropWhile_not isWord after
    rw [hc] at first
    exact first
  | @shortened _ dots d none text filled digit last =>
    refine ⟨List.cons_ne_nil _ _, by simpa using isWord_of_isDecimal digit, dots ++ after,
      by simp [text], fun c hc => ?_⟩
    cases dots with
    | nil => exact Bool.eq_false_iff.2 fun word => none ⟨c, hc, word⟩
    | cons e dots =>
      obtain rfl := Option.some.inj hc
      exact not_isWord_of_isNumeric (place.numeric e (by simp [text])) (last e List.mem_cons_self)

theorem Reads.whole_iff (reads : Reads numeral after number unit) : number = numeral ↔ HasUnit after := by
  cases reads with
  | whole has => exact iff_of_true rfl has
  | shortened none text =>
    refine iff_of_false (fun same => ?_) none
    have length := congrArg List.length text
    simp only [same, List.length_append, List.length_cons] at length
    omega

/-- A numeral's own digit is taken for the unit exactly if it has none. -/
theorem Reads.apart_iff (reads : Reads numeral after number unit)
    (right : ∀ c ∈ after.head?, isNumeric c = false) :
    (∀ c ∈ unit.head?, isNumeric c = false) ↔ HasUnit after := by
  cases reads with
  | whole has =>
    obtain ⟨c, hc, word⟩ := has
    refine iff_of_true (fun d hd => right d ?_) ⟨c, hc, word⟩
    obtain ⟨after, rfl⟩ := List.head?_eq_some_iff.1 hc
    simpa [word] using hd
  | shortened none text filled digit =>
    refine iff_of_false (fun apart => ?_) none
    have clash := apart _ rfl
    rw [isNumeric_of_isDecimal digit] at clash
    cases clash

theorem forall_not_reads_iff : (∀ number unit, ¬ Reads numeral after number unit) ↔
    ¬ HasUnit after ∧ ∀ c ∈ numeral.tail, isDecimal c = false := by
  rw [← giveBack?_eq_none_iff]
  constructor
  · intro unread
    have none : ¬ HasUnit after := fun has => unread _ _ (.whole has)
    refine ⟨none, ?_⟩
    cases given : giveBack? numeral with
    | none => rfl
    | some parts => exact absurd (reads_of_giveBack? none given) (unread _ _)
  · exact fun ⟨bare, kept⟩ _ _ => not_reads bare kept

theorem IsNumeral.place (number : IsNumeral numeral) (right : ∀ c ∈ after.head?, isNumeric c = false) :
    NumeralAt (numeral ++ after) [] numeral after :=
  ⟨number, rfl, nofun, right⟩

end reading

theorem parse_eq_ok_iff {raw number : String} {units : Units} : parse raw = .ok (number, units) ↔
    ∃ before numeral after unit, FirstRead raw.toList before numeral after number.toList unit ∧
      units = if unit = ['k', 'm'] then .kilometers else .meters := by
  rw [parse]
  constructor
  · intro h
    split at h
    · rename_i found unit e
      obtain ⟨rfl, rfl⟩ := Prod.mk.inj (Except.ok.inj h)
      obtain ⟨before, numeral, after, read⟩ := find?_eq_some_iff.1 e
      exact ⟨before, numeral, after, unit, by rwa [String.toList_ofList], rfl⟩
    · cases h
  · rintro ⟨before, numeral, after, unit, read, rfl⟩
    rw [find?_eq_some_iff.2 ⟨before, numeral, after, read⟩]
    simp

/-- Where a number stands alone: no digit or dot is behind it, and no digit, dot, comma or sign before it. -/
structure Alone (before behind : List Char) : Prop where
  left : ∀ c ∈ before.getLast?, isNumeric c = false ∧ c ∉ [',', '+', '-']
  right : ∀ c ∈ behind.head?, isNumeric c = false

/-- The number that is read of a text, where it stands there. It starts a numeral, so that no digit or dot is
before it. -/
structure Located (raw number : List Char) (units : Units) (before numeral after unit rest : List Char) :
    Prop where
  place : NumeralAt raw before numeral after
  first : ∀ b n a, NumeralAt raw b n a → b.length < before.length →
    ¬ HasUnit a ∧ ∀ c ∈ n.tail, isDecimal c = false
  text : numeral ++ after = number ++ (unit ++ rest)
  /-- What counts as the unit is the word behind the number. -/
  filled : unit ≠ []
  word : ∀ c ∈ unit, isWord c = true
  last : ∀ c ∈ rest.head?, isWord c = false
  kilometers : units = .kilometers ↔ unit = ['k', 'm']
  whole : number = numeral ↔ HasUnit after
  alone : Alone before (unit ++ rest) ↔ HasUnit after ∧ ∀ c ∈ before.getLast?, c ∉ [',', '+', '-']

theorem alone_iff {before unit rest : List Char} (left : ∀ c ∈ before.getLast?, isNumeric c = false)
    (filled : unit ≠ []) : Alone before (unit ++ rest) ↔
      (∀ c ∈ unit.head?, isNumeric c = false) ∧ ∀ c ∈ before.getLast?, c ∉ [',', '+', '-'] := by
  have head : (unit ++ rest).head? = unit.head? := List.head?_append_of_ne_nil unit filled
  constructor
  · intro alone
    exact ⟨head ▸ alone.right, fun c hc => (alone.left c hc).2⟩
  · rintro ⟨right, plain⟩
    exact ⟨fun c hc => ⟨left c hc, plain c hc⟩, head ▸ right⟩

theorem located_of_parse {raw number : String} {units : Units} (read : parse raw = .ok (number, units)) :
    ∃ before numeral after unit rest,
      Located raw.toList number.toList units before numeral after unit rest := by
  obtain ⟨before, numeral, after, unit, found, rfl⟩ := parse_eq_ok_iff.1 read
  obtain ⟨filled, word, rest, text, last⟩ := found.reads.word found.toIsNumeral
  refine ⟨before, numeral, after, unit, rest, ⟨found.toNumeralAt,
    fun b n a place earlier => forall_not_reads_iff.1 (found.first b n a place earlier), text, filled,
    word, last, ?_, found.reads.whole_iff, ?_⟩⟩
  · split <;> simp [*]
  · rw [alone_iff found.left filled, found.reads.apart_iff found.right]

theorem parse_append {raw : String} {numeral unit : List Char} (number : IsNumeral numeral) (word : IsUnit unit)
    (text : raw.toList = numeral ++ unit) :
    parse raw = .ok (String.ofList numeral, if unit = ['k', 'm'] then .kilometers else .meters) := by
  have all : unit.takeWhile isWord = unit := List.takeWhile_eq_self_iff.2 word.word
  have has : HasUnit unit := by
    by_contra none
    exact word.filled (all ▸ takeWhile_isWord_eq_nil_iff.2 none)
  have reads : Reads numeral unit numeral unit := by
    have whole : Reads numeral unit numeral (unit.takeWhile isWord) := .whole has
    rwa [all] at whole
  refine parse_eq_ok_iff.2 ⟨[], numeral, unit, unit, ?_, rfl⟩
  rw [text, String.toList_ofList]
  exact .of_blank (number.place word.apart) nofun reads

theorem parse_numeral_eq_ok_iff {raw number : String} {units : Units} (whole : IsNumeral raw.toList) :
    parse raw = .ok (number, units) ↔ ∃ unit, Reads raw.toList [] number.toList unit ∧
      units = if unit = ['k', 'm'] then .kilometers else .meters := by
  have place : NumeralAt (raw.toList ++ []) [] raw.toList [] := whole.place nofun
  rw [List.append_nil] at place
  rw [parse_eq_ok_iff]
  constructor
  · rintro ⟨b, n, a, unit, read, named⟩
    rcases place.first_or_behind nofun read.toNumeralAt with ⟨rfl, rfl, rfl⟩ | ⟨t, -, behind⟩
    · exact ⟨unit, read.reads, named⟩
    · have nothing := congrArg List.length behind.text
      have filled := List.length_pos_iff.2 behind.filled
      simp only [List.length_append, List.length_nil] at nothing
      omega
  · rintro ⟨unit, reads, named⟩
    exact ⟨[], raw.toList, [], unit, .of_blank place nofun reads, named⟩

/-- The number that is read starts a numeral of the text. It is that numeral exactly if a unit stands behind it,
and stands alone exactly if then no comma or sign is before it. A text of a numeral and a unit is read as these.
A numeral with nothing behind it is refused if it has no digit after its first character, and shortened if it
has one. -/
theorem parse_located (raw : String) :
    (∀ number units, parse raw = .ok (number, units) → ∃ before numeral after unit rest,
      Located raw.toList number.toList units before numeral after unit rest) ∧
    (∀ numeral unit, IsNumeral numeral → IsUnit unit → raw.toList = numeral ++ unit →
      parse raw = .ok (String.ofList numeral, if unit = ['k', 'm'] then .kilometers else .meters)) ∧
    (IsNumeral raw.toList →
      ((∃ e, parse raw = .error e) ↔ ∀ c ∈ raw.toList.tail, isDecimal c = false) ∧
        ∀ units, parse raw ≠ .ok (raw, units)) := by
  refine ⟨fun number units => located_of_parse, fun numeral unit number word text => ?_,
    fun whole => ⟨⟨?_, fun plain => ?_⟩, fun units read => ?_⟩⟩
  · exact parse_append number word text
  · rintro ⟨e, refused⟩
    suffices unread : ∀ number unit, ¬ Reads raw.toList [] number unit from
      (forall_not_reads_iff.1 unread).2
    intro number unit reads
    have read : parse raw = .ok (String.ofList number, _) :=
      (parse_numeral_eq_ok_iff whole).2 ⟨unit, by rwa [String.toList_ofList], rfl⟩
    rw [refused] at read
    cases read
  · have bare : ¬ HasUnit [] := fun ⟨c, hc, _⟩ => by cases hc
    cases read : parse raw with
    | error e => exact ⟨e, rfl⟩
    | ok found =>
      obtain ⟨unit, reads, -⟩ := (parse_numeral_eq_ok_iff whole).1 read
      exact absurd reads (forall_not_reads_iff.2 ⟨bare, plain⟩ _ _)
  · obtain ⟨unit, reads, -⟩ := (parse_numeral_eq_ok_iff whole).1 read
    obtain ⟨c, hc, -⟩ := reads.whole_iff.1 rfl
    cases hc

theorem parse_located_dotted : parse "12.5km" = .ok ("12.5", .kilometers) :=
  (parse_located "12.5km").2.1 ['1', '2', '.', '5'] ['k', 'm'] ⟨by decide, by decide⟩
    ⟨by decide, List.all_eq_true.1 (by cbv), fun c hc => by cases hc; cbv⟩ (by decide)

/-- Numbers without a unit, with a separator and with a sign. -/
theorem parse_shortened : parse "320" = .ok ("32", .meters) ∧
    parse "1,000km" = .ok ("000", .kilometers) ∧ parse "-5km" = .ok ("5", .kilometers) := by
  cbv

end MapLayer.Distance
