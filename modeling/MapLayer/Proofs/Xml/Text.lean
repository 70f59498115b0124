import MapLayer.Proofs.Text.Replace
import MapLayer.Proofs.Xml.Reader

/-!
Texts and tags as they are written. Main statements: resolving the entities of an escaped text gives the
text back, and a tag is read with its name and the values of its attributes, whatever white space and quotes
it is written with.
-/

namespace MapLayer

open MapLayer.Text

namespace XmlNode

theorem mem_escape {c d : Char} (h : c ∈ escape d) :
    c ≠ '<' ∧ c ≠ '>' ∧ c ≠ '"' ∧ c ≠ '\'' := by
  unfold escape at h
  split at h
  all_goals try (revert c; decide)
  rename_i lt gt amp apos quot
  obtain rfl := List.mem_singleton.1 h
  exact ⟨lt, gt, quot, apos⟩

theorem mem_escapeAll {c : Char} {s : String} (h : c ∈ escapeAll s) :
    c ≠ '<' ∧ c ≠ '>' ∧ c ≠ '"' ∧ c ≠ '\'' := by
  obtain ⟨d, -, h⟩ := List.mem_flatMap.1 h
  exact mem_escape h

end XmlNode

namespace Xml

open XmlNode

theorem unescape?_escape_append (c : Char) (rest : List Char) :
    unescape? (escape c ++ rest) = (unescape? rest).map (c :: ·) := by
  have entity (name : List Char) (closed : ';' ∉ name) (single : name.contains '&' = false)
      (known : entity? name = some c) :
      unescape? ('&' :: (name ++ ';' :: rest)) = (unescape? rest).map (c :: ·) := by
    rw [unescape?, cut?_append closed]
    simp only [single, known]
    rfl
  unfold escape
  split
  · exact entity ['l', 't'] (by decide) rfl rfl
  · exact entity ['g', 't'] (by decide) rfl rfl
  · exact entity ['a', 'm', 'p'] (by decide) rfl rfl
  · exact entity ['a', 'p', 'o', 's'] (by decide) rfl rfl
  · exact entity ['q', 'u', 'o', 't'] (by decide) rfl rfl
  · rename_i amp _ _
    rw [List.singleton_append, unescape?]
    exact amp

theorem unescape?_append (s : String) (rest : List Char) :
    unescape? (escapeAll s ++ rest) = (unescape? rest).map (s.toList ++ ·) := by
  unfold escapeAll
  induction s.toList with
  | nil => simp
  | cons c cs ih =>
    rw [List.flatMap_cons, List.append_assoc, unescape?_escape_append, ih]
    cases unescape? rest <;> rfl

theorem unescape?_escapeAll (s : String) : unescape? (escapeAll s) = some s.toList := by
  have h := unescape?_append s []
  rwa [List.append_nil, unescape?, Option.map_some, List.append_nil] at h

theorem unescape?_cons {c : Char} (other : c ≠ '&') (s : List Char) :
    unescape? (c :: s) = (unescape? s).map (c :: ·) := by
  rw [unescape?]
  exact other

theorem unescape?_plain {w : List Char} (plain : '&' ∉ w) (rest : List Char) :
    unescape? (w ++ rest) = (unescape? rest).map (w ++ ·) := by
  induction w with
  | nil => simp
  | cons c w ih =>
    obtain ⟨other, plain⟩ := not_or.1 (mt List.mem_cons.2 plain)
    rw [List.cons_append, unescape?_cons (Ne.symm other), ih plain]
    cases unescape? rest <;> rfl

theorem unescape?_entity {name : List Char} (closed : ';' ∉ name) (rest : List Char) :
    unescape? ('&' :: (name ++ ';' :: rest)) = if name.contains '&' then none
      else (entity? name).bind fun c => (unescape? rest).map (c :: ·) := by
  rw [unescape?, cut?_append closed]

theorem unescape?_unclosed {s : List Char} (absent : ';' ∉ s) : unescape? ('&' :: s) = none := by
  rw [unescape?, cut?_eq_none_of_not_mem List.mem_cons_self absent]

/-- A text is made of characters other than ampersands and of entities, up to an ampersand that starts none. -/
theorem entity_induction {p : List Char → Prop} (nil : p [])
    (cons : ∀ c s, c ≠ '&' → p s → p (c :: s))
    (entity : ∀ name rest, ';' ∉ name → p rest → p ('&' :: (name ++ ';' :: rest)))
    (unclosed : ∀ s, ';' ∉ s → p ('&' :: s)) (s : List Char) : p s := by
  match s with
  | [] => exact nil
  | c :: s =>
    by_cases mark : c = '&'
    · subst mark
      cases found : cut? [';'] s with
      | none => exact unclosed s (not_mem_of_cut?_eq_none found)
      | some parts =>
        obtain ⟨name, rest⟩ := parts
        have := length_of_cut? found
        have split : s = name ++ ';' :: rest := by simpa using append_of_cut? found
        rw [split]
        exact entity name rest (not_mem_of_cut? found) (entity_induction nil cons entity unclosed rest)
    · exact cons c s mark (entity_induction nil cons entity unclosed s)
termination_by s.length

theorem eq_nil_of_unescape? {s : List Char} (resolved : unescape? s = some []) : s = [] := by
  cases s using entity_induction with
  | nil => rfl
  | cons c s other => simp [unescape?_cons other] at resolved
  | entity name s closed => simp [unescape?_entity closed, Option.bind_eq_some_iff] at resolved
  | unclosed s absent => simp [unescape?_unclosed absent] at resolved

/-- What is before a text is resolved on its own if it can be. -/
theorem unescape?_before {p s : List Char} (resolved : unescape? p = some s) (rest : List Char) :
    unescape? (p ++ rest) = (unescape? rest).map (s ++ ·) := by
  induction p using entity_induction generalizing s with
  | nil =>
    obtain rfl : [] = s := by simpa [unescape?] using resolved
    simp
  | cons c p other ih =>
    rw [unescape?_cons other, Option.map_eq_some_iff] at resolved
    obtain ⟨t, inner, rfl⟩ := resolved
    rw [List.cons_append, unescape?_cons other, ih inner, Option.map_map]
    rfl
  | entity name p closed ih =>
    rw [unescape?_entity closed] at resolved
    rw [List.cons_append, List.append_assoc, List.cons_append, unescape?_entity closed]
    split at resolved
    · cases resolved
    · rename_i single
      obtain ⟨c, known, resolved⟩ := Option.bind_eq_some_iff.1 resolved
      obtain ⟨t, inner, rfl⟩ := Option.map_eq_some_iff.1 resolved
      rw [if_neg single, known, Option.bind_some, ih inner, Option.map_map]
      rfl
  | unclosed p absent =>
    rw [unescape?_unclosed absent] at resolved
    cases resolved

theorem unescape?_behind {w : List Char} (plain : '&' ∉ w) (apart : ';' ∉ w) (s : List Char) :
    unescape? (s ++ w) = (unescape? s).map (· ++ w) := by
  induction s using entity_induction with
  | nil =>
    have whole := unescape?_plain plain []
    simpa [unescape?] using whole
  | cons c s other ih =>
    rw [List.cons_append, unescape?_cons other, unescape?_cons other, ih, Option.map_map, Option.map_map]
    rfl
  | entity name s closed ih =>
    rw [List.cons_append, List.append_assoc, List.cons_append, unescape?_entity closed,
      unescape?_entity closed, ih]
    split
    · rfl
    · cases entity? name with
      | none => rfl
      | some c => simp [Option.map_map, Function.comp_def]
  | unclosed s absent =>
    have none : ';' ∉ s ++ w := by simp [absent, apart]
    rw [List.cons_append, unescape?_unclosed none, unescape?_unclosed absent]
    rfl

/-- The characters of the names of tags and attributes: all those that neither end a name nor have a
meaning in a tag. XML knows fewer. -/
def isNameChar (c : Char) : Bool :=
  !isSpacing c && c ∉ ['=', '<', '>', '/', '"', '\'', '!', '?', '&', '\x0c']

def IsName (s : String) : Prop := s ≠ "" ∧ ∀ c ∈ s.toList, isNameChar c = true

instance (s : String) : Decidable (IsName s) := inferInstanceAs (Decidable (_ ∧ _))

theorem of_isNameChar {c : Char} (h : isNameChar c = true) :
    isSpacing c = false ∧ c ≠ '=' ∧ c ≠ '>' ∧ c ≠ '/' ∧ c ≠ '"' ∧ c ≠ '\'' ∧ c ≠ '!'
      ∧ c ≠ '?' := by
  obtain ⟨blank, others⟩ := Bool.and_eq_true_iff.1 h
  refine ⟨by simpa using blank, ?_, ?_, ?_, ?_, ?_, ?_, ?_⟩
  all_goals
    rintro rfl
    revert others
    decide

theorem IsName.exists_cons {s : String} (h : IsName s) :
    ∃ c cs, s.toList = c :: cs ∧ ∀ d ∈ c :: cs, isNameChar d = true := by
  cases letters : s.toList with
  | nil => exact absurd (String.toList_eq_nil_iff.1 letters) h.1
  | cons c cs => exact ⟨c, cs, rfl, letters ▸ h.2⟩

theorem skip_of_name {c : Char} (h : isNameChar c = true) (s : List Char) :
    skip (c :: s) = c :: s := by
  rw [skip, List.dropWhile_cons_of_neg]
  simp [(of_isNameChar h).1]

theorem attributeName?_append {name : String} (h : IsName name) (rest : List Char) :
    attributeName? (name.toList ++ '=' :: rest) = some (name.toList, rest) := by
  obtain ⟨c, cs, letters, plain⟩ := h.exists_cons
  have inner : ∀ d ∈ cs, (!(d == '=' || isSpacing d)) = true := by
    intro d hd
    obtain ⟨blank, sign, -⟩ := of_isNameChar (plain d (List.mem_cons_of_mem _ hd))
    simp [blank, sign]
  have skipped : skip ('=' :: rest) = '=' :: rest := rfl
  rw [letters, List.cons_append, attributeName?]
  simp only [List.takeWhile_append_of_pos inner, List.dropWhile_append_of_pos inner]
  simp [skipped]

theorem quotedValue?_append (value : String) (rest : List Char) :
    quotedValue? ('"' :: (escapeAll value ++ '"' :: rest)) = some (escapeAll value, rest) := by
  have unquoted : '"' ∉ escapeAll value := fun h => (mem_escapeAll h).2.2.1 rfl
  have skipped : skip ('"' :: (escapeAll value ++ '"' :: rest))
      = '"' :: (escapeAll value ++ '"' :: rest) := rfl
  rw [quotedValue?, skipped]
  simp [cut?_append unquoted]

theorem attributesFrom_written {attributes : List (String × String)} {seen : List (List Char)}
    (named : ∀ a ∈ attributes, IsName a.1) (distinct : (attributes.map (·.1)).Nodup)
    (fresh : ∀ a ∈ attributes, a.1.toList ∉ seen) :
    attributesFrom seen (attributes.flatMap attributeText)
      = attributes.map fun a => .pair a.1.toList (escapeAll a.2) := by
  induction attributes generalizing seen with
  | nil => simp [attributesFrom, skip]
  | cons a attributes ih =>
    obtain ⟨name, value⟩ := a
    obtain ⟨first, named⟩ := List.forall_mem_cons.1 named
    obtain ⟨absent, fresh⟩ := List.forall_mem_cons.1 fresh
    obtain ⟨other, distinct⟩ := List.nodup_cons.1 distinct
    obtain ⟨c, cs, letters, plain⟩ := first.exists_cons
    generalize rest : attributes.flatMap attributeText = r at ih ⊢
    have skipped : skip (attributeText (name, value) ++ r)
        = name.toList ++ '=' :: '"' :: (escapeAll value ++ '"' :: r) := by
      have blank : skip (attributeText (name, value) ++ r)
          = skip (name.toList ++ '=' :: '"' :: (escapeAll value ++ '"' :: r)) := by
        simp [attributeText, skip, isSpacing]
      rw [blank, letters, List.cons_append, skip_of_name (plain c List.mem_cons_self)]
    have later : ∀ a ∈ attributes, a.1.toList ∉ name.toList :: seen := by
      intro a ha
      rw [List.mem_cons, not_or]
      refine ⟨fun same => other ?_, fresh a ha⟩
      exact List.mem_map.2 ⟨a, ha, String.toList_inj.1 same⟩
    rw [List.flatMap_cons, rest, attributesFrom, skipped]
    rw [if_neg (by simp [letters])]
    split
    · rename_i none
      rw [attributeName?_append first] at none
      cases none
    · rename_i found
      rw [attributeName?_append first] at found
      cases found
      rw [if_neg (by simpa using absent)]
      split
      · rename_i none
        rw [quotedValue?_append] at none
        cases none
      · rename_i found
        rw [quotedValue?_append] at found
        cases found
        rw [ih named distinct later, List.map_cons]

theorem values?_written {attributes : List (String × String)} (name : List Char)
    (named : ∀ a ∈ attributes, IsName a.1) (distinct : (attributes.map (·.1)).Nodup) :
    Tag.values? ⟨name, attributes.flatMap attributeText⟩ = some attributes := by
  rw [Tag.values?, Tag.attributes, attributesFrom_written named distinct (by simp)]
  induction attributes with
  | nil => rfl
  | cons a attributes ih =>
    obtain ⟨-, named⟩ := List.forall_mem_cons.1 named
    obtain ⟨-, distinct⟩ := List.nodup_cons.1 distinct
    simp [ih named distinct, unescape?_escapeAll]

theorem tagBody_plain {u : List Char} (plain : ∀ c ∈ u, c ≠ '>' ∧ c ≠ '"' ∧ c ≠ '\'')
    (s : List Char) : tagBody none (u ++ s) = (u ++ (tagBody none s).1, (tagBody none s).2) := by
  induction u with
  | nil => rfl
  | cons c u ih =>
    obtain ⟨⟨mark, double, single⟩, plain⟩ := List.forall_mem_cons.1 plain
    simp [tagBody, mark, double, single, ih plain]

theorem tagBody_quoted {q : Char} {u : List Char} (unquoted : q ∉ u) (s : List Char) :
    tagBody (some q) (u ++ q :: s) = (u ++ q :: (tagBody none s).1, (tagBody none s).2) := by
  induction u with
  | nil => simp [tagBody]
  | cons c u ih =>
    rw [List.mem_cons, not_or] at unquoted
    simp [tagBody, Ne.symm unquoted.1, ih unquoted.2]

def IsGap (s : List Char) : Prop := ∀ c ∈ s, isSpacing c = true

/-- What may stand behind the name of a tag: attributes with any values. -/
inductive IsTagRest : List Char → Prop
  | nil {gap : List Char} (blank : IsGap gap) : IsTagRest gap
  | cons {name : String} {before sign after : List Char} {quote : Char} {raw rest : List Char}
      (apart : before ≠ []) (blank : IsGap (before ++ sign ++ after)) (word : IsName name)
      (quotes : quote = '"' ∨ quote = '\'') (unquoted : quote ∉ raw) (others : IsTagRest rest) :
      IsTagRest (before ++ name.toList ++ sign ++ '=' :: after ++ quote :: (raw ++ quote :: rest))

/-- Attributes as they may be written behind the name of a tag: with white space around names and signs,
and with quotes of either kind. -/
inductive SpellsAttributes : List (String × String) → List Char → Prop
  | nil {gap : List Char} (blank : IsGap gap) : SpellsAttributes [] gap
  | cons {name value : String} {attributes : List (String × String)} {before sign after : List Char}
      {quote : Char} {raw rest : List Char} (apart : before ≠ []) (blank : IsGap (before ++ sign ++ after))
      (word : IsName name) (quotes : quote = '"' ∨ quote = '\'') (unquoted : quote ∉ raw)
      (resolved : unescape? raw = some value.toList) (others : SpellsAttributes attributes rest) :
      SpellsAttributes ((name, value) :: attributes)
        (before ++ name.toList ++ sign ++ '=' :: after ++ quote :: (raw ++ quote :: rest))

theorem spellsAttributes_written {attributes : List (String × String)}
    (named : ∀ a ∈ attributes, IsName a.1) :
    SpellsAttributes attributes (attributes.flatMap attributeText) := by
  induction attributes with
  | nil => exact .nil nofun
  | cons a attributes ih =>
    obtain ⟨first, named⟩ := List.forall_mem_cons.1 named
    have unquoted : '"' ∉ escapeAll a.2 := fun h => (mem_escapeAll h).2.2.1 rfl
    have spelled : SpellsAttributes (a :: attributes) ([' '] ++ a.1.toList ++ [] ++ '=' :: []
        ++ '"' :: (escapeAll a.2 ++ '"' :: attributes.flatMap attributeText)) :=
      .cons (by decide) (by simp [IsGap, isSpacing]) first (.inl rfl) unquoted
        (unescape?_escapeAll a.2) (ih named)
    simpa [attributeText] using spelled

theorem IsName.plain {name : String} (word : IsName name) :
    ∀ c ∈ name.toList, c ≠ '>' ∧ c ≠ '"' ∧ c ≠ '\'' := by
  intro c hc
  obtain ⟨-, -, mark, -, double, single, -⟩ := of_isNameChar (word.2 c hc)
  exact ⟨mark, double, single⟩

theorem IsGap.blank {s : List Char} (h : IsGap s) : ∀ c ∈ s, isBlank c = true :=
  fun c hc => isBlank_of_isSpacing (h c hc)

theorem IsGap.not_mem {s : List Char} (h : IsGap s) {c : Char} (solid : isSpacing c = false) : c ∉ s :=
  fun hc => absurd (h c hc) (by simp [solid])

theorem IsGap.plain {s : List Char} (h : IsGap s) : ∀ c ∈ s, c ≠ '>' ∧ c ≠ '"' ∧ c ≠ '\'' := by
  intro c hc
  refine ⟨?_, ?_, ?_⟩
  all_goals
    rintro rfl
    exact h.not_mem (by decide) hc

theorem SpellsAttributes.isTagRest {attributes : List (String × String)} {s : List Char}
    (h : SpellsAttributes attributes s) : IsTagRest s := by
  induction h with
  | nil blank => exact .nil blank
  | cons apart blank word quotes unquoted _ _ ih => exact .cons apart blank word quotes unquoted ih

namespace IsTagRest

variable {s : List Char}

theorem tagBody_append (h : IsTagRest s) (rest : List Char) :
    tagBody none (s ++ rest) = (s ++ (tagBody none rest).1, (tagBody none rest).2) := by
  induction h with
  | nil blank => exact tagBody_plain blank.plain rest
  | @cons name before sign after quote raw behind _ blank word quotes unquoted _ ih =>
    have front : ∀ c ∈ before ++ name.toList ++ sign ++ '=' :: after,
        c ≠ '>' ∧ c ≠ '"' ∧ c ≠ '\'' := by
      intro c hc
      simp only [List.mem_append, List.mem_cons] at hc
      rcases hc with ((hc | hc) | hc) | rfl | hc
      · exact blank.plain c (by simp [hc])
      · exact word.plain c hc
      · exact blank.plain c (by simp [hc])
      · decide
      · exact blank.plain c (by simp [hc])
    have opens (t : List Char) : tagBody none (quote :: t)
        = (quote :: (tagBody (some quote) t).1, (tagBody (some quote) t).2) := by
      rcases quotes with rfl | rfl <;> simp [tagBody]
    have within : tagBody (some quote) (raw ++ quote :: behind ++ rest)
        = (raw ++ quote :: (behind ++ (tagBody none rest).1), (tagBody none rest).2) := by
      rw [List.append_assoc, List.cons_append, tagBody_quoted unquoted, ih]
    rw [List.append_assoc, tagBody_plain front, List.cons_append, opens, within]
    simp

theorem isSpacing_head (h : IsTagRest s) : ∀ c ∈ s.head?, isSpacing c = true := by
  cases h with
  | nil blank => exact fun c hc => blank c (List.mem_of_head? hc)
  | @cons _ before _ _ _ _ _ apart blank =>
    obtain ⟨d, t, rfl⟩ := List.exists_cons_of_ne_nil apart
    intro c hc
    obtain rfl : d = c := by simpa using hc
    exact blank d (by simp)

theorem getLast?_ne (h : IsTagRest s) : s.getLast? ≠ some '/' := by
  induction h with
  | nil blank =>
    intro last
    exact absurd (blank _ (List.mem_of_getLast? last)) (by decide)
  | @cons _ _ _ _ quote raw behind _ _ _ quotes _ _ ih =>
    rw [List.getLast?_append, List.getLast?_cons, List.getLast?_append, List.getLast?_cons]
    cases last : behind.getLast? with
    | none => rcases quotes with rfl | rfl <;> simp
    | some c => simpa [last] using ih

end IsTagRest

section tags

variable {name : String} {within : List Char}

theorem tagOf_append (word : IsName name) (spelled : IsTagRest within) :
    tagOf (name.toList ++ within) = ⟨name.toList, within⟩ := by
  have solid : ∀ c ∈ name.toList, (!isSpacing c) = true := by
    intro c hc
    simp [(of_isNameChar (word.2 c hc)).1]
  rw [tagOf, List.takeWhile_append_of_pos solid, List.dropWhile_append_of_pos solid]
  cases within with
  | nil => simp
  | cons c within => simp [spelled.isSpacing_head c rfl]

theorem markupStep_name (word : IsName name) (opened : List (List Char)) (s : List Char) :
    markupStep opened (name.toList ++ s) = startStep opened (name.toList ++ s) := by
  obtain ⟨c, cs, letters, chars⟩ := word.exists_cons
  obtain ⟨-, -, -, slash, -, -, bang, query⟩ := of_isNameChar (chars c List.mem_cons_self)
  rw [letters]
  unfold markupStep
  split <;> simp_all

theorem markupStep_start (word : IsName name) (spelled : IsTagRest within)
    (opened : List (List Char)) (rest : List Char) :
    markupStep opened (name.toList ++ within ++ '>' :: rest)
      = ⟨.start ⟨name.toList, within⟩, name.toList :: opened, rest⟩ := by
  have body : tagBody none (name.toList ++ within ++ '>' :: rest) = (name.toList ++ within, rest) := by
    rw [List.append_assoc, tagBody_plain word.plain, spelled.tagBody_append]
    simp [tagBody]
  have unclosed : (name.toList ++ within).getLast? ≠ some '/' := by
    rw [List.getLast?_append]
    cases last : within.getLast? with
    | none =>
      intro ends
      exact (of_isNameChar (word.2 _ (List.mem_of_getLast? ends))).2.2.2.1 rfl
    | some c => simpa [last] using spelled.getLast?_ne
  rw [List.append_assoc, markupStep_name word, ← List.append_assoc, startStep]
  simp only [body, if_neg unclosed, tagOf_append word spelled]

theorem markupStep_closed (word : IsName name) (spelled : IsTagRest within)
    (opened : List (List Char)) (rest : List Char) :
    markupStep opened (name.toList ++ within ++ '/' :: '>' :: rest)
      = ⟨.empty ⟨name.toList, within⟩, opened, rest⟩ := by
  have body : tagBody none (name.toList ++ within ++ '/' :: '>' :: rest)
      = (name.toList ++ within ++ ['/'], rest) := by
    rw [List.append_assoc, tagBody_plain word.plain, spelled.tagBody_append]
    simp [tagBody]
  rw [List.append_assoc, markupStep_name word, ← List.append_assoc, startStep]
  simp only [body, List.getLast?_concat, if_true, List.dropLast_concat, tagOf_append word spelled]

end tags

theorem markupStep_startTag {name : String} {attributes : List (String × String)} (word : IsName name)
    (named : ∀ a ∈ attributes, IsName a.1) (opened : List (List Char)) (rest : List Char) :
    markupStep opened (name.toList ++ attributes.flatMap attributeText ++ '>' :: rest)
      = ⟨.start ⟨name.toList, attributes.flatMap attributeText⟩, name.toList :: opened, rest⟩ :=
  markupStep_start word (spellsAttributes_written named).isTagRest opened rest

/-- An end tag is read with its name, which may have white space behind it. -/
theorem markupStep_finish {name : String} (word : IsName name) {gap : List Char} (blank : IsGap gap)
    (others : List (List Char)) (rest : List Char) :
    markupStep (name.toList :: others) ('/' :: (name.toList ++ gap ++ '>' :: rest))
      = ⟨.finish name.toList, others, rest⟩ := by
  have inner : ∀ c ∈ name.toList ++ gap, (c != '>') = true := by
    intro c hc
    rcases List.mem_append.1 hc with hc | hc
    · simpa using (word.plain c hc).1
    · simpa using (blank.plain c hc).1
  have body : upTo '>' (name.toList ++ gap ++ '>' :: rest) = (name.toList ++ gap, rest) := by
    simp only [upTo, List.takeWhile_append_of_pos inner, List.dropWhile_append_of_pos inner]
    simp
  have turned : ∀ c ∈ gap.reverse, (isSpacing c || c == '\x0c') = true := by
    intro c hc
    simp [blank c (List.mem_reverse.1 hc)]
  have kept : trimRight (fun c => isSpacing c || c == '\x0c') (name.toList ++ gap) = name.toList := by
    rw [trimRight, List.reverse_append, List.dropWhile_append_of_pos turned, List.reverse_eq_iff,
      List.dropWhile_eq_self_iff]
    intro some
    have char := word.2 _ (List.mem_reverse.1 (List.getElem_mem some))
    generalize name.toList.reverse[0] = c at char
    have feed : c ≠ '\x0c' := by
      rintro rfl
      revert char
      decide
    simp [(of_isNameChar char).1, feed]
  have filled : name.toList ≠ [] := mt String.toList_eq_nil_iff.1 word.1
  rw [markupStep, finishStep, body]
  simp only [kept, if_neg filled, if_true]

theorem markupStep_endTag {name : String} (word : IsName name) (others : List (List Char))
    (rest : List Char) : markupStep (name.toList :: others) ('/' :: (name.toList ++ '>' :: rest))
      = ⟨.finish name.toList, others, rest⟩ := by
  have blank : IsGap [] := nofun
  simpa using markupStep_finish word blank others rest

end Xml

end MapLayer
