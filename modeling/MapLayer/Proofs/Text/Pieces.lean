import Mathlib
import MapLayer.Text.Blank
import MapLayer.Text.Split

/-! Joined and trimmed texts, and the characters in them. -/

namespace MapLayer.Text

-- Characters are finitely many, so a search for an instance may go through them all.
/-- What holds of every character of a text is decided along the text. -/
instance decidableEach (p : Char → Prop) [DecidablePred p] (s : List Char) :
    Decidable (∀ c ∈ s, p c) :=
  List.decidableBAll p s

theorem join_eq_intercalate (mark : List Char) (texts : List (List Char)) :
    join mark texts = mark.intercalate texts := by
  fun_induction join mark texts with
  | case1 => rfl
  | case2 p => simp
  | case3 p q ps ih => rw [List.intercalate_cons_cons, ih]

theorem mem_intercalate {mark : List Char} {texts : List (List Char)} {c : Char}
    (h : c ∈ mark.intercalate texts) : c ∈ mark ∨ ∃ t ∈ texts, c ∈ t := by
  induction texts with
  | nil => cases h
  | cons t texts ih =>
    cases texts with
    | nil => exact .inr ⟨t, List.mem_cons_self, by simpa using h⟩
    | cons u texts =>
      rw [List.intercalate_cons_cons, List.append_assoc] at h
      rcases List.mem_append.1 h with h | h
      · exact .inr ⟨t, List.mem_cons_self, h⟩
      · rcases List.mem_append.1 h with h | h
        · exact .inl h
        · rcases ih h with h | ⟨v, hv, h⟩
          · exact .inl h
          · exact .inr ⟨v, List.mem_cons_of_mem _ hv, h⟩

theorem takeWhile_ne_append {mark : Char} {s : List Char} (h : mark ∉ s) (rest : List Char) :
    (s ++ mark :: rest).takeWhile (· != mark) = s := by
  have inside : ∀ c ∈ s, (c != mark) = true := by
    intro c hc
    exact bne_iff_ne.2 fun e => h (e ▸ hc)
  rw [List.takeWhile_append_of_pos inside, List.takeWhile_cons_of_neg (by simp), List.append_nil]

theorem trim_concat {s : List Char} {d : Char} (first : ∀ c ∈ s.head?, isBlank c = false)
    (last : isBlank d = false) : trim (s ++ [d]) = s ++ [d] := by
  cases s with
  | nil => simp [trim, trimLeft, trimRight, last]
  | cons c s => simp [trim, trimLeft, trimRight, first c rfl, last]

theorem trim_eq_self {s : List Char} (first : ∀ c ∈ s.head?, isBlank c = false)
    (last : ∀ c ∈ s.getLast?, isBlank c = false) : trim s = s := by
  cases s using List.reverseRecOn with
  | nil => rfl
  | append_singleton s d =>
    refine trim_concat (fun c hc => first c ?_) (last d (by simp))
    simp only [Option.mem_def, List.head?_eq_some_iff] at hc ⊢
    obtain ⟨s', rfl⟩ := hc
    exact ⟨s' ++ [d], rfl⟩

theorem trimLeft_append_cons (front rest : List Char) {d : Char} (solid : isBlank d = false) :
    trimLeft isBlank (front ++ d :: rest) = trimLeft isBlank front ++ d :: rest := by
  induction front with
  | nil => exact List.dropWhile_cons_of_neg (by simp [solid])
  | cons c s ih =>
    cases blank : isBlank c with
    | true => simpa [trimLeft, blank] using ih
    | false => simp [trimLeft, blank]

theorem trim_append_cons (front rest : List Char) {d : Char} (solid : isBlank d = false) :
    trim (front ++ d :: rest) = trimLeft isBlank front ++ d :: trimRight isBlank rest := by
  have turned : (trimLeft isBlank front ++ d :: rest).reverse
      = rest.reverse ++ d :: (trimLeft isBlank front).reverse := by simp
  have back := trimLeft_append_cons rest.reverse (trimLeft isBlank front).reverse solid
  rw [trim, trimLeft_append_cons front rest solid, trimRight, turned, ← trimLeft, back]
  simp [trimRight, trimLeft]

theorem trim_append_blank {w : List Char} (blank : ∀ c ∈ w, isBlank c = true) (s : List Char) :
    trim (s ++ w) = trim s := by
  have back (t : List Char) : trimRight isBlank (t ++ w) = trimRight isBlank t := by
    have turned : ∀ c ∈ w.reverse, isBlank c = true := fun c hc => blank c (List.mem_reverse.1 hc)
    rw [trimRight, List.reverse_append, List.dropWhile_append_of_pos turned, trimRight]
  have none : trimLeft isBlank w = [] := List.dropWhile_eq_nil_iff.2 blank
  rw [trim, trimLeft, List.dropWhile_append, ← trimLeft, ← trimLeft, none, trim]
  split
  · rename_i empty
    rw [List.isEmpty_iff.1 empty]
  · exact back _

theorem trim_blank_append {w : List Char} (blank : ∀ c ∈ w, isBlank c = true) (s : List Char) :
    trim (w ++ s) = trim s := by
  rw [trim, trimLeft, List.dropWhile_append_of_pos blank, trim, trimLeft]

theorem all_of_dropWhile_eq_nil {p : Char → Bool} {s : List Char} (h : s.dropWhile p = []) :
    ∀ c ∈ s, p c = true := by
  have whole : s.takeWhile p ++ s.dropWhile p = s := List.takeWhile_append_dropWhile
  rw [h, List.append_nil] at whole
  rw [← whole]
  exact List.all_eq_true.1 List.all_takeWhile

theorem isBlank_of_trim_eq_nil {s : List Char} (h : trim s = []) : ∀ c ∈ s, isBlank c = true := by
  have right := all_of_dropWhile_eq_nil (List.reverse_eq_nil_iff.1 h)
  intro c hc
  rw [← List.takeWhile_append_dropWhile (p := isBlank) (l := s)] at hc
  rcases List.mem_append.1 hc with hc | hc
  · exact List.all_eq_true.1 List.all_takeWhile c hc
  · exact right c (List.mem_reverse.2 hc)

theorem mem_of_mem_trim {s : List Char} {c : Char} (h : c ∈ trim s) : c ∈ s := by
  have left := (List.dropWhile_sublist isBlank (l := s)).subset
  have right := (List.dropWhile_sublist isBlank (l := (trimLeft isBlank s).reverse)).subset
  exact left (List.mem_reverse.1 (right (List.mem_reverse.1 h)))

theorem cut?_of_not_mem {mark : Char} {s : List Char} (h : mark ∉ s) : cut? [mark] s = none := by
  induction s with
  | nil => rfl
  | cons c s ih =>
    have other : mark ≠ c := fun e => h (e ▸ List.mem_cons_self)
    simp [cut?, after?, other, ih fun member => h (List.mem_cons_of_mem _ member)]

theorem cut?_append_append {mark : Char} (marks : List Char) {s : List Char} (h : mark ∉ s)
    (rest : List Char) : cut? (mark :: marks) (s ++ mark :: (marks ++ rest)) = some (s, rest) := by
  induction s with
  | nil =>
    have found : after? (mark :: marks) (mark :: (marks ++ rest)) = some rest :=
      after?_eq_some_iff.2 rfl
    rw [List.nil_append, cut?, found]
  | cons c s ih =>
    have other : mark ≠ c := fun e => h (e ▸ List.mem_cons_self)
    simp [cut?, after?, other, ih fun member => h (List.mem_cons_of_mem _ member)]

theorem cut?_append {mark : Char} {s : List Char} (h : mark ∉ s) (rest : List Char) :
    cut? [mark] (s ++ mark :: rest) = some (s, rest) := cut?_append_append [] h rest

theorem not_mem_of_cut?_eq_none {mark : Char} {s : List Char} (h : cut? [mark] s = none) :
    mark ∉ s := by
  intro member
  obtain ⟨before, rest, split, first⟩ := List.eq_append_cons_of_mem member
  rw [split, cut?_append first] at h
  cases h

theorem not_mem_of_cut? {mark : Char} {s before rest : List Char}
    (h : cut? [mark] s = some (before, rest)) : mark ∉ before := by
  induction s generalizing before with
  | nil => cases h
  | cons c s ih =>
    rw [cut?] at h
    split at h
    · cases h
      exact List.not_mem_nil
    · rename_i other
      obtain ⟨⟨front, back⟩, found, same⟩ := Option.map_eq_some_iff.1 h
      cases same
      refine fun member => ?_
      rcases List.mem_cons.1 member with rfl | member
      · simp [after?] at other
      · exact ih found member

theorem occursIn_append (mark front back : List Char) : occursIn mark (front ++ mark ++ back) = true := by
  induction front with
  | nil =>
    have found : after? mark (mark ++ back) = some back := after?_eq_some_iff.2 rfl
    cases e : mark ++ back with
    | nil =>
      obtain ⟨rfl, rfl⟩ := List.append_eq_nil_iff.1 e
      rfl
    | cons c s =>
      rw [e] at found
      simp [occursIn, cut?, e, found]
  | cons c front ih =>
    obtain ⟨⟨before, rest⟩, found⟩ := Option.isSome_iff_exists.1 ih
    simp only [List.cons_append, occursIn, cut?]
    split
    · rfl
    · rw [found]
      rfl

/-- A mark of two equal characters and another one is found where it stands, also right behind one of the
two. -/
theorem cut?_doubled {a b : Char} (apart : a ≠ b) {s : List Char} (absent : occursIn [a, a, b] s = false)
    (rest : List Char) : cut? [a, a, b] (s ++ a :: a :: b :: rest) = some (s, rest) := by
  induction s with
  | nil => simp [cut?, after?]
  | cons c s ih =>
    have missing : after? [a, a, b] (c :: s) = none ∧ occursIn [a, a, b] s = false := by
      rw [occursIn, cut?] at absent
      cases found : after? [a, a, b] (c :: s) with
      | none => simpa [found, occursIn] using absent
      | some rest => simp [found] at absent
    -- of a mark that started here the third character would be one of these, or the whole mark part of the text
    have here : after? [a, a, b] (c :: (s ++ a :: a :: b :: rest)) = none := by
      have missed := missing.1
      rcases s with _ | ⟨d, _ | ⟨e, s⟩⟩
      · simp [after?, apart.symm]
      · simp [after?, apart.symm]
      · simpa [after?] using missed
    rw [List.cons_append, cut?, here, ih missing.2]
    rfl

theorem pieces_of_not_mem {mark : Char} {s : List Char} (h : mark ∉ s) : pieces mark s = [s] := by
  induction s with
  | nil => rfl
  | cons c s ih =>
    have other : c ≠ mark := fun e => h (e ▸ List.mem_cons_self)
    rw [pieces, if_neg other, ih fun member => h (List.mem_cons_of_mem _ member)]

theorem mem_of_mem_pieces {mark : Char} {s p : List Char} (h : p ∈ pieces mark s) :
    ∀ c ∈ p, c ∈ s := by
  induction s generalizing p with
  | nil =>
    rw [List.mem_singleton.1 h]
    exact nofun
  | cons d s ih =>
    rw [pieces] at h
    intro c hc
    split at h
    · rcases List.mem_cons.1 h with rfl | h
      · cases hc
      · exact List.mem_cons_of_mem _ (ih h c hc)
    · split at h
      · rename_i none
        exact absurd none (pieces_ne_nil mark s)
      · rename_i q qs cut
        rw [cut] at ih
        rcases List.mem_cons.1 h with rfl | h
        · rcases List.mem_cons.1 hc with rfl | hc
          · exact List.mem_cons_self
          · exact List.mem_cons_of_mem _ (ih List.mem_cons_self c hc)
        · exact List.mem_cons_of_mem _ (ih (List.mem_cons_of_mem _ h) c hc)

theorem pieces_append (mark : Char) (s t : List Char) :
    pieces mark (s ++ mark :: t) = pieces mark s ++ pieces mark t := by
  induction s with
  | nil => simp [pieces]
  | cons c s ih =>
    rw [List.cons_append, pieces, pieces, ih]
    split
    · rfl
    · cases e : pieces mark s with
      | nil => exact absurd e (pieces_ne_nil mark s)
      | cons p ps => rfl

theorem pieces_join {mark : Char} {texts : List (List Char)} (filled : texts ≠ [])
    (apart : ∀ t ∈ texts, mark ∉ t) : pieces mark (join [mark] texts) = texts := by
  induction texts with
  | nil => exact absurd rfl filled
  | cons t texts ih =>
    obtain ⟨first, apart⟩ := List.forall_mem_cons.1 apart
    cases texts with
    | nil => rw [join, pieces_of_not_mem first]
    | cons u texts =>
      rw [join, List.append_assoc, List.singleton_append, pieces_append, pieces_of_not_mem first,
        ih (List.cons_ne_nil _ _) apart, List.singleton_append]

end MapLayer.Text
