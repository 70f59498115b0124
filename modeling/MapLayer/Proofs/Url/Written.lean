import MapLayer.Proofs.Url.Parts

/-! Reading addresses that were written. Main statement: an address in normal form with a query is read as
itself, up to its host and path, which are worked out once more. -/

namespace MapLayer.Url

open MapLayer.Text

def isSchemeChar (c : Char) : Bool := c.isAlphanum || c == '+' || c == '-' || c == '.'

structure IsScheme (s : List Char) : Prop where
  letter : ∀ c ∈ s.head?, c.isAlpha = true
  nonempty : s ≠ []
  chars : ∀ c ∈ s, isSchemeChar c = true
  small : s.map Char.toLower = s

def Visible (s : List Char) : Prop := ∀ c ∈ s, 0x20 < c.toNat

theorem isSchemeChar_inner {c : Char} (h : isSchemeChar c = true) :
    0x20 < c.toNat ∧ c.toNat < 0x7F := by
  simp only [isSchemeChar, Bool.or_eq_true, beq_iff_eq] at h
  rcases h with ((h | rfl) | rfl) | rfl
  · exact (isAlphanum_inner h).2.2
  all_goals decide

theorem toLower_scheme : ∀ n < 0x7F, let c := Char.ofNat n
    isSchemeChar c = true → isSchemeChar c.toLower = true ∧ c.toLower.toLower = c.toLower ∧
      (c.isAlpha = true → c.toLower.isAlpha = true) := by
  decide

theorem toLower_of_isSchemeChar {c : Char} (h : isSchemeChar c = true) :
    isSchemeChar c.toLower = true ∧ c.toLower.toLower = c.toLower ∧
      (c.isAlpha = true → c.toLower.isAlpha = true) := by
  have known := toLower_scheme c.toNat (isSchemeChar_inner h).2
  rw [Char.ofNat_toNat] at known
  exact known h

theorem scheme?_eq {s : List Char} : scheme? s = match s with
    | c :: _ => if c.isAlpha then
        match s.dropWhile isSchemeChar with
        | ':' :: rest => some ((s.takeWhile isSchemeChar).map Char.toLower, rest)
        | _ => none
      else none
    | [] => none := rfl

theorem isScheme_of_scheme? {s scheme rest : List Char} (h : scheme? s = some (scheme, rest)) :
    IsScheme scheme := by
  rw [scheme?_eq] at h
  split at h
  · rename_i c t
    split at h
    · rename_i letter
      split at h
      · cases h
        have first : isSchemeChar c = true := by simp [isSchemeChar, Char.isAlphanum, letter]
        have chars : ∀ d ∈ (c :: t).takeWhile isSchemeChar, isSchemeChar d = true :=
          List.all_eq_true.1 List.all_takeWhile
        rw [List.takeWhile_cons_of_pos first] at chars ⊢
        refine ⟨?_, by simp, ?_, ?_⟩
        · rintro _ ⟨⟩
          exact (toLower_of_isSchemeChar first).2.2 letter
        · exact List.forall_mem_map.2 fun d hd => (toLower_of_isSchemeChar (chars d hd)).1
        · rw [List.map_map]
          exact List.map_congr_left fun d hd => (toLower_of_isSchemeChar (chars d hd)).2.1
      · cases h
    · cases h
  · cases h

theorem IsScheme.scheme? {scheme : List Char} (h : IsScheme scheme) (rest : List Char) :
    Url.scheme? (scheme ++ ':' :: rest) = some (scheme, rest) := by
  have outside : isSchemeChar ':' = false := by decide
  have take : (scheme ++ ':' :: rest).takeWhile isSchemeChar = scheme := by
    rw [List.takeWhile_append_of_pos h.chars, List.takeWhile_cons_of_neg (by simp [outside]),
      List.append_nil]
  have drop : (scheme ++ ':' :: rest).dropWhile isSchemeChar = ':' :: rest := by
    rw [List.dropWhile_append_of_pos h.chars, List.dropWhile_cons_of_neg (by simp [outside])]
  rw [scheme?_eq, take, drop, h.small]
  cases scheme with
  | nil => exact absurd rfl h.nonempty
  | cons c s => simp [h.letter c rfl]

theorem cleaned_eq_self {s : List Char} (inner : ∀ c ∈ s, 0x20 ≤ c.toNat)
    (first : ∀ c ∈ s.head?, 0x20 < c.toNat) (last : ∀ c ∈ s.getLast?, 0x20 < c.toNat) :
    cleaned s = s := by
  have left : trimLeft (fun c => decide (c.toNat ≤ 0x20)) s = s := by
    cases s with
    | nil => rfl
    | cons c s =>
      have := first c rfl
      exact List.dropWhile_cons_of_neg (by simp; omega)
  have right : trimRight (fun c => decide (c.toNat ≤ 0x20)) s = s := by
    cases e : s.reverse with
    | nil => rw [List.reverse_eq_nil_iff.1 e]; rfl
    | cons c t =>
      have := last c (by rw [List.getLast?_eq_head?_reverse, e]; rfl)
      have kept : s.reverse.dropWhile (fun c => decide (c.toNat ≤ 0x20)) = s.reverse := by
        rw [e]
        exact List.dropWhile_cons_of_neg (by simp; omega)
      rw [trimRight, kept, List.reverse_reverse]
  unfold cleaned
  dsimp only
  rw [left, right]
  refine List.filter_eq_self.2 fun c hc => ?_
  have high := inner c hc
  simp only [Bool.not_eq_true', Bool.or_eq_false_iff, beq_eq_false_iff_ne, ne_eq]
  refine ⟨⟨?_, ?_⟩, ?_⟩ <;> (rintro rfl; revert high; decide)

/-- Whether an address belongs to a scheme with rules of its own for hosts. -/
def isSpecial (u : Url) : Bool := isWeb u.scheme || isFile u.scheme

/-- Host and path as they are written between the colon and the query. -/
def hierarchy (u : Url) : List Char := (u.authority.map fun a => '/' :: '/' :: a).getD [] ++ u.path

/-- An address whose parts are written as they are read. -/
structure Normal (u : Url) : Prop where
  scheme : IsScheme u.scheme
  authority : ∀ a ∈ u.authority, Unmarked a
  path : Unmarked u.path
  query : ∀ q ∈ u.query, ∀ c ∈ q, queryMust u.isSpecial c = false
  fragment : ∀ f ∈ u.fragment, ∀ c ∈ f, fragmentMust c = false

theorem alphanum_must : ∀ n < 0x7F, let c := Char.ofNat n
    c.isAlphanum = true → fragmentMust c = false ∧ ∀ special, queryMust special c = false := by
  decide

theorem must_of_isAlphanum {c : Char} (h : c.isAlphanum = true) :
    fragmentMust c = false ∧ ∀ special, queryMust special c = false := by
  have known := alphanum_must c.toNat (isAlphanum_inner h).2.2.2
  rw [Char.ofNat_toNat] at known
  exact known h

theorem visible_of_queryMust {special : Bool} {c : Char} (h : queryMust special c = false) :
    0x20 < c.toNat ∧ c ≠ '#' := by
  have mark : c ≠ '#' := by
    rintro rfl
    cases special <;> (revert h; decide)
  have space : c ≠ ' ' := by
    rintro rfl
    cases special <;> (revert h; decide)
  refine ⟨Nat.lt_of_le_of_ne (Nat.le_of_not_lt fun low => ?_) fun e => ?_, mark⟩
  · simp [queryMust, isControl, low] at h
  · exact space (Char.toNat_inj.1 e.symm)

theorem visible_of_fragmentMust {c : Char} (h : fragmentMust c = false) : 0x20 < c.toNat := by
  have space : c ≠ ' ' := by
    rintro rfl
    revert h
    decide
  refine Nat.lt_of_le_of_ne (Nat.le_of_not_lt fun low => ?_) fun e => ?_
  · simp [fragmentMust, isControl, low] at h
  · exact space (Char.toNat_inj.1 e.symm)

theorem cutAt_of_not_mem {mark : Char} {s : List Char} (h : mark ∉ s) : cutAt mark s = (s, none) := by
  rw [cutAt, cut?_of_not_mem h]

theorem cutAt_append {mark : Char} {s : List Char} (h : mark ∉ s) (rest : List Char) :
    cutAt mark (s ++ mark :: rest) = (s, some rest) := by
  rw [cutAt, cut?_append h]

theorem cutAt_fst (mark : Char) (s : List Char) :
    mark ∉ (cutAt mark s).1 ∧ (cutAt mark s).1.Sublist s := by
  unfold cutAt
  cases found : cut? [mark] s with
  | none =>
    exact ⟨not_mem_of_cut?_eq_none found, List.Sublist.refl s⟩
  | some parts =>
    obtain ⟨before, rest⟩ := parts
    refine ⟨not_mem_of_cut? found, ?_⟩
    rw [append_of_cut? found, List.append_assoc]
    exact List.sublist_append_left _ _

theorem parse_eq_ok {s : List Char} {u : Url} (h : parse s = .ok u) :
    ∃ (scheme hierarchy : List Char) (query fragment : Option (List Char)), IsScheme scheme ∧ Uncut hierarchy ∧
      parts scheme hierarchy (query.isNone && fragment.isNone) = .ok (u.authority, u.path) ∧
      u.scheme = scheme ∧
      u.query = query.map (percentEncode (queryMust (isWeb scheme || isFile scheme))) ∧
      u.fragment = fragment.map (percentEncode fragmentMust) := by
  unfold parse at h
  split at h
  · cases h
  · rename_i scheme rest found
    dsimp only at h
    obtain ⟨⟨authority, path⟩, hp, h⟩ := Outcome.bind_eq_ok.1 h
    cases h
    obtain ⟨noQuery, front⟩ := cutAt_fst '?' (cutAt '#' rest).1
    have noFragment := fun member => (cutAt_fst '#' rest).1 (front.subset member)
    exact ⟨scheme, _, _, _, isScheme_of_scheme? found, ⟨noFragment, noQuery⟩, hp, rfl, rfl, rfl⟩

theorem normal_of_parse {s : List Char} {u : Url} (h : parse s = .ok u) : Normal u := by
  obtain ⟨scheme, hierarchy, query, fragment, known, uncut, hp, rfl, hq, hf⟩ := parse_eq_ok h
  obtain ⟨authority, path⟩ := unmarked_parts uncut hp
  refine ⟨known, authority, path, ?_, ?_⟩
  · intro q member
    rw [hq] at member
    obtain ⟨raw, -, rfl⟩ := Option.map_eq_some_iff.1 member
    exact not_must_percentEncode (by cases isWeb u.scheme || isFile u.scheme <;> decide)
      fun c letter => (must_of_isAlphanum letter).2 _
  · intro f member
    rw [hf] at member
    obtain ⟨raw, -, rfl⟩ := Option.map_eq_some_iff.1 member
    exact not_must_percentEncode (by decide) fun c letter => (must_of_isAlphanum letter).1

namespace Normal

variable {u : Url}

theorem unmarked_hierarchy (n : Normal u) : Unmarked u.hierarchy := by
  refine Unmarked.append ?_ n.path
  cases given : u.authority with
  | none => exact .nil
  | some a => exact .cons (by decide) (.cons (by decide) (n.authority a given))

def ending (q : List Char) (fragment : Option (List Char)) : List Char :=
  '?' :: (q ++ (fragment.map fun f => '#' :: f).getD [])

theorem chars_eq {q : List Char} (hq : u.query = some q) :
    u.chars = u.scheme ++ ':' :: (u.hierarchy ++ ending q u.fragment) := by
  simp [chars, target, hierarchy, ending, hq]

theorem visible_ending (n : Normal u) {q : List Char} (hq : u.query = some q) :
    Visible (ending q u.fragment) := by
  intro c hc
  rcases List.mem_cons.1 hc with rfl | hc
  · decide
  · rcases List.mem_append.1 hc with hc | hc
    · exact (visible_of_queryMust (n.query q hq c hc)).1
    · cases given : u.fragment with
      | none =>
        rw [given] at hc
        cases hc
      | some f =>
        rw [given] at hc
        rcases List.mem_cons.1 hc with rfl | hc
        · decide
        · exact visible_of_fragmentMust (n.fragment f given c hc)

theorem cleaned_chars (n : Normal u) {q : List Char} (hq : u.query = some q) :
    cleaned u.chars = u.chars := by
  have visible := n.visible_ending hq
  rw [chars_eq hq]
  apply cleaned_eq_self
  · intro c hc
    rcases List.mem_append.1 hc with hc | hc
    · exact Nat.le_of_lt (isSchemeChar_inner (n.scheme.chars c hc)).1
    · rcases List.mem_cons.1 hc with rfl | hc
      · decide
      · rcases List.mem_append.1 hc with hc | hc
        · exact (n.unmarked_hierarchy c hc).2.2
        · exact Nat.le_of_lt (visible c hc)
  · intro c hc
    cases e : u.scheme with
    | nil => exact absurd e n.scheme.nonempty
    | cons d s =>
      rw [e] at hc
      cases hc
      exact (isSchemeChar_inner (n.scheme.chars _ (e ▸ List.mem_cons_self))).1
  · intro c hc
    refine visible c (List.mem_of_getLast? ?_)
    rw [← hc]
    simp [List.getLast?_append, List.getLast?_cons, ending]

/-- The text of an address in normal form is read part by part. -/
theorem parse_chars (n : Normal u) {q : List Char} (hq : u.query = some q) :
    parse u.chars = do
      let (authority, path) ← parts u.scheme u.hierarchy false
      return { u with authority, path } := by
  have inner := n.unmarked_hierarchy.uncut
  have noFragment : '#' ∉ u.hierarchy ++ '?' :: q := by
    intro member
    rcases List.mem_append.1 member with member | member
    · exact inner.1 member
    · rcases List.mem_cons.1 member with h | member
      · cases h
      · exact (visible_of_queryMust (n.query q hq _ member)).2 rfl
  have cutFragment : cutAt '#' (u.hierarchy ++ ending q u.fragment)
      = (u.hierarchy ++ '?' :: q, u.fragment) := by
    cases given : u.fragment with
    | none => simpa [ending] using cutAt_of_not_mem noFragment
    | some f => simpa [ending] using cutAt_append noFragment f
  have query := percentEncode_eq_self (n.query q hq)
  have fragment : u.fragment.map (percentEncode fragmentMust) = u.fragment := by
    cases given : u.fragment with
    | none => rfl
    | some f => exact congrArg some (percentEncode_eq_self (n.fragment f given))
  rw [parse, n.cleaned_chars hq, chars_eq hq, n.scheme.scheme?]
  dsimp only
  rw [cutFragment]
  dsimp only
  rw [cutAt_append inner.2, fragment]
  have same : percentEncode (queryMust (isWeb u.scheme || isFile u.scheme)) q = q := query
  simp only [Option.map_some, Option.isNone_some, Bool.false_and, same, hq]

end Normal

end MapLayer.Url
