import MapLayer.Proofs.Text.Lines
import MapLayer.Response.FeatureGroups

/-!
Features as a service lists them. Main statement: whatever attributes are listed, under any header, with values
bare or in quotes, are read back as they were, each in the group of its feature.
-/

namespace MapLayer.FeatureGroup

open MapLayer.Text

/-- Whether a text stands in quotes of its own. -/
def IsQuoted (s : List Char) : Prop := ∃ mark inner, (mark = '\'' ∨ mark = '"') ∧ s = mark :: (inner ++ [mark])

/-- An attribute that can be listed. The value is one line, without white space around it or quotes of its own
around it. -/
structure IsListable (p : KeyPair) : Prop where
  named : p.key ≠ ""
  word : ∀ c ∈ p.key.toList, isWord c = true
  line : '\n' ∉ p.value.toList
  trimmed : trim p.value.toList = p.value.toList
  unquoted : ¬IsQuoted p.value.toList

/-- The ways to write a value: as it is, or in quotes of either kind. -/
inductive Writes (value : List Char) : List Char → Prop
  | bare : Writes value value
  | quoted {mark : Char} (quote : mark = '\'' ∨ mark = '"') : Writes value (mark :: (value ++ [mark]))

inductive IsRow (p : KeyPair) : List Char → Prop
  | mk {value : List Char} (listable : IsListable p) (written : Writes p.value.toList value) :
      IsRow p (p.key.toList ++ ' ' :: '=' :: ' ' :: value)

/-- The lines that features may be listed as: those of its attributes for each feature, and then others,
which the last feature may go without. -/
inductive Lists : List FeatureGroup → List (List Char) → Prop
  | none : Lists [] []
  | last {group : FeatureGroup} {rows : List (List Char)} (filled : group ≠ [])
      (listed : List.Forall₂ IsRow group rows) : Lists [group] rows
  | closed {group : FeatureGroup} {groups : List FeatureGroup} {rows between behind : List (List Char)}
      (filled : group ≠ []) (listed : List.Forall₂ IsRow group rows) (apart : between ≠ [])
      (plain : ∀ line ∈ between, '=' ∉ line) (others : Lists groups behind) :
      Lists (group :: groups) (rows ++ (between ++ behind))

section values

variable {s value : List Char} {mark : Char}

theorem between?_quoted (mark : Char) (inner : List Char) :
    between? mark (mark :: (inner ++ [mark])) = some inner := by
  cases inner with
  | nil => simp [between?]
  | cons c inner => simp [between?, List.getLast?_cons, List.dropLast_cons_of_ne_nil]

theorem eq_of_between? {inner : List Char} (found : between? mark s = some inner) :
    s = mark :: (inner ++ [mark]) := by
  unfold between? at found
  split at found
  · rename_i c d r
    split at found
    · rename_i quoted
      obtain ⟨rfl, last⟩ := quoted
      obtain rfl := Option.some.inj found
      rw [List.dropLast_append_getLast? _ last]
    · cases found
  · cases found

theorem between?_eq_none (unquoted : ¬IsQuoted s) (quote : mark = '\'' ∨ mark = '"') :
    between? mark s = none :=
  Option.eq_none_iff_forall_ne_some.2 fun inner found =>
    unquoted ⟨mark, inner, quote, eq_of_between? found⟩

instance (s : List Char) : Decidable (IsQuoted s) :=
  decidable_of_iff ((between? '\'' s).isSome ∨ (between? '"' s).isSome) <| by
    constructor
    · rintro (found | found)
      · obtain ⟨inner, found⟩ := Option.isSome_iff_exists.1 found
        exact ⟨_, inner, .inl rfl, eq_of_between? found⟩
      · obtain ⟨inner, found⟩ := Option.isSome_iff_exists.1 found
        exact ⟨_, inner, .inr rfl, eq_of_between? found⟩
    · rintro ⟨mark, inner, rfl | rfl, rfl⟩
      · exact .inl (by simp [between?_quoted])
      · exact .inr (by simp [between?_quoted])

theorem unquote_writes (written : Writes s value) (unquoted : ¬IsQuoted s) : unquote value = s := by
  cases written with
  | bare =>
    rw [unquote, between?_eq_none unquoted (.inl rfl), between?_eq_none unquoted (.inr rfl)]
    rfl
  | quoted quote =>
    rcases quote with rfl | rfl
    · rw [unquote, between?_quoted]
      rfl
    · have other : between? '\'' ('"' :: (s ++ ['"'])) = none :=
        Option.eq_none_iff_forall_ne_some.2 fun inner found =>
          absurd (List.cons.inj (eq_of_between? found)).1 (by decide)
      rw [unquote, other, between?_quoted]
      rfl

theorem trim_writes (written : Writes s value) (trimmed : trim s = s) : trim value = value := by
  cases written with
  | bare => exact trimmed
  | @quoted mark quote =>
    have solid : isBlank mark = false := by rcases quote with rfl | rfl <;> decide
    rw [← List.cons_append]
    exact trim_concat (by simpa using solid) solid

end values

section rows

variable {p : KeyPair} {line : List Char}

theorem pair?_row (row : IsRow p line) : pair? line = some p := by
  obtain @⟨value, listable, written⟩ := row
  obtain ⟨c, cs, key⟩ := List.exists_cons_of_ne_nil (mt String.toList_eq_nil_iff.1 listable.named)
  obtain ⟨first, more⟩ := List.forall_mem_cons.1 (key ▸ listable.word)
  have start : (p.key.toList ++ ' ' :: '=' :: ' ' :: value).dropWhile (!isWord ·)
      = c :: (cs ++ ' ' :: '=' :: ' ' :: value) := by simp [key, first]
  have behind : (cs ++ ' ' :: '=' :: ' ' :: value).dropWhile isWord = ' ' :: '=' :: ' ' :: value := by
    rw [List.dropWhile_append_of_pos more, List.dropWhile_cons_of_neg (by decide)]
  have word : (cs ++ ' ' :: '=' :: ' ' :: value).takeWhile isWord = cs := by
    rw [List.takeWhile_append_of_pos more, List.takeWhile_cons_of_neg (by decide), List.append_nil]
  have sign : trimLeft isBlank (' ' :: '=' :: ' ' :: value) = '=' :: ' ' :: value := rfl
  have read : unquote (trim (' ' :: value)) = p.value.toList := by
    have blank : trim (' ' :: value) = trim value := trim_blank_append (w := [' ']) (by decide) value
    rw [blank, trim_writes written listable.trimmed, unquote_writes written listable.unquoted]
  rw [pair?]
  split
  · rename_i none
    rw [start] at none
    cases none
  · rename_i found
    rw [start] at found
    cases found
    simp only [behind, sign, word, read, ← key, String.ofList_toList]

theorem mem_row (row : IsRow p line) : '=' ∈ line := by
  obtain ⟨-, -⟩ := row
  simp

end rows

section lines

variable {group current : FeatureGroup} {groups : List FeatureGroup} {rows lines behind : List (List Char)}

theorem fromLines_header (plain : ∀ line ∈ lines, '=' ∉ line) (behind : List (List Char)) :
    fromLines [] (lines ++ behind) = fromLines [] behind := by
  induction lines with
  | nil => rfl
  | cons line lines ih =>
    obtain ⟨first, plain⟩ := List.forall_mem_cons.1 plain
    rw [List.cons_append, fromLines, if_neg (by simpa using first), if_pos rfl, ih plain]

theorem fromLines_rows (listed : List.Forall₂ IsRow group rows) (current : FeatureGroup)
    (behind : List (List Char)) :
    fromLines current (rows ++ behind) = fromLines (current ++ group) behind := by
  induction listed generalizing current with
  | nil => rw [List.nil_append, List.append_nil]
  | cons row _ ih =>
    have signed := mem_row row
    rw [List.cons_append, fromLines, if_pos (by simpa using signed), pair?_row row, ih]
    simp

/-- Lines without an equals sign close the feature that is open, and nothing else. -/
theorem fromLines_between (filled : current ≠ []) (apart : lines ≠ [])
    (plain : ∀ line ∈ lines, '=' ∉ line) (behind : List (List Char)) :
    fromLines current (lines ++ behind) = current :: fromLines [] behind := by
  obtain ⟨line, lines, rfl⟩ := List.exists_cons_of_ne_nil apart
  obtain ⟨first, plain⟩ := List.forall_mem_cons.1 plain
  rw [List.cons_append, fromLines, if_neg (by simpa using first), if_neg filled, fromLines_header plain]

theorem fromLines_listed (h : Lists groups lines) : fromLines [] lines = groups := by
  induction h with
  | none => rfl
  | @last group rows filled listed =>
    have rows := fromLines_rows listed [] []
    rw [List.append_nil] at rows
    rw [rows, List.nil_append, fromLines, if_neg filled]
  | @closed group groups rows between behind filled listed apart plain _ ih =>
    rw [fromLines_rows listed, List.nil_append, fromLines_between filled apart plain, ih]

end lines

/-- Features are read back as they were listed, under any header without an equals sign. -/
theorem parseAll_listed {header lines : List (List Char)} {groups : List FeatureGroup} {text : String}
    (plain : ∀ line ∈ header, '=' ∉ line) (listed : Lists groups lines)
    (broken : Breaks (header ++ lines) text.toList) : parseAll text = groups := by
  rw [parseAll, broken.lines_eq, fromLines_header plain, fromLines_listed listed]

/-- Two features, the second without a line behind it and without a break. -/
theorem parseAll_listed_sites :
    let header := ["Results:".toList]
    let lines := ["site = \"it's\"".toList, "note = ''".toList, "--".toList, "größe = a=b".toList]
    let text := "Results:\nsite = \"it's\"\r\nnote = ''\n--\r\ngröße = a=b"
    let groups := [[⟨"site", "it's"⟩, ⟨"note", ""⟩], [⟨"größe", "a=b"⟩]]
    (∀ line ∈ header, '=' ∉ line) ∧ Lists groups lines ∧ Breaks (header ++ lines) text.toList ∧
      parseAll text = groups := by
  intro header lines text groups
  have plain : ∀ line ∈ header, '=' ∉ line := by decide +kernel
  have site : IsRow ⟨"site", "it's"⟩ "site = \"it's\"".toList :=
    .mk ⟨by decide, by decide +kernel, by decide, by decide +kernel, by decide⟩ (.quoted (.inr rfl))
  have note : IsRow ⟨"note", ""⟩ "note = ''".toList :=
    .mk ⟨by decide, by decide +kernel, by decide, by decide +kernel, by decide⟩ (.quoted (.inl rfl))
  have size : IsRow ⟨"größe", "a=b"⟩ "größe = a=b".toList :=
    .mk ⟨by decide, by decide +kernel, by decide, by decide +kernel, by decide⟩ .bare
  have listed : Lists groups lines :=
    .closed (by decide) (.cons site (.cons note .nil)) (List.cons_ne_nil "--".toList []) (by decide)
      (.last (by decide) (.cons size .nil))
  have written : text.toList = "Results:".toList ++ '\n' :: ("site = \"it's\"".toList
      ++ '\r' :: '\n' :: ("note = ''".toList ++ '\n' :: ("--".toList
      ++ '\r' :: '\n' :: "größe = a=b".toList))) := by decide +kernel
  have broken : Breaks (header ++ lines) text.toList := by
    rw [written]
    exact .feed (by decide) (by decide) (.returned (by decide) (.feed (by decide) (by decide)
      (.returned (by decide) (.last (by decide) (by decide)))))
  exact ⟨plain, listed, broken, parseAll_listed plain listed broken⟩

end MapLayer.FeatureGroup
