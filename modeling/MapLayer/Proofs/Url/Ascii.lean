import MapLayer.Proofs.Url.Ideograph

/-! Names in ASCII. Main statements: a name of small letters and signs is its own ASCII form, unless one of
its labels starts like the ASCII form of another, and what a name in ASCII is read as is read as itself. -/

namespace MapLayer.Url.Domain

open MapLayer.Text

variable {c : Char} {s : List Char}

/-- Whether no ASCII character has a direction, if it is one from right to left. -/
def isBeyond (e : Direction × List (Nat × Nat)) : Bool :=
  !e.1.isRightward || e.2.all fun r => 0x80 ≤ r.1

set_option maxRecDepth 100000 in
theorem directions_beyond : directionTable.all isBeyond = true := by
  have rightward {d : Direction} {ranges : List (Nat × Nat)}
      (beyond : ranges.all (fun r => 0x80 ≤ r.1) = true) : isBeyond (d, ranges) = true := by
    rw [isBeyond, beyond, Bool.or_true]
  simp only [directionTable, List.all_cons, List.all_nil, Bool.and_true, Bool.and_eq_true]
  refine ⟨rightward ?_, rightward ?_, rightward ?_, ?_⟩
  iterate 3
    · apply Table.all_ranges
      · with_reducible rfl
      · decide +kernel
  · and_intros <;> rfl

theorem not_isRightward_of_ascii (ascii : c.toNat < 0x80) :
    (directionOf c).isRightward = false := by
  have looked : directionOf c
      = ((directionTable.find? fun e => inRanges e.2 c.toNat).map (·.1)).getD .left := rfl
  rw [looked]
  cases found : directionTable.find? fun e => inRanges e.2 c.toNat with
  | none => rfl
  | some e =>
    have beyond := List.all_eq_true.1 directions_beyond e (List.mem_of_find?_eq_some found)
    have among : inRanges e.2 c.toNat = true := by simpa using List.find?_some found
    obtain ⟨r, hr, inside⟩ := List.any_eq_true.1 among
    rw [isBeyond, Bool.or_eq_true, Bool.not_eq_true'] at beyond
    refine beyond.resolve_right fun ranges => ?_
    have above := of_decide_eq_true (List.all_eq_true.1 ranges r hr)
    simp only [Bool.and_eq_true, decide_eq_true_eq] at inside
    omega

/-- A character that a name may hold as it is. -/
structure IsSmall (c : Char) : Prop where
  ascii : c.toNat < 0x80
  small : c.toLower = c
  allowed : isForbidden c = false

instance (c : Char) : Decidable (IsSmall c) :=
  decidable_of_iff (c.toNat < 0x80 ∧ c.toLower = c ∧ isForbidden c = false)
    ⟨fun ⟨a, b, c⟩ => ⟨a, b, c⟩, fun h => ⟨h.ascii, h.small, h.allowed⟩⟩

theorem toLower_ascii : ∀ n < 0x80, let c := Char.ofNat n
    c.toLower.toNat < 0x80 ∧ c.toLower.toLower = c.toLower := by
  decide

theorem toLower_of_ascii (ascii : c.toNat < 0x80) :
    c.toLower.toNat < 0x80 ∧ c.toLower.toLower = c.toLower := by
  have known := toLower_ascii c.toNat ascii
  rwa [Char.ofNat_toNat] at known

theorem isAscii_iff : isAscii s = true ↔ ∀ c ∈ s, c.toNat < 0x80 := by simp [isAscii]

theorem isAscii_lower (ascii : isAscii s = true) : isAscii (s.map Char.toLower) = true :=
  isAscii_iff.2 (List.forall_mem_map.2 fun c hc => (toLower_of_ascii (isAscii_iff.1 ascii c hc)).1)

theorem isAscii_pieces (ascii : isAscii s = true) : ∀ label ∈ pieces '.' s, isAscii label = true :=
  fun _ hl => isAscii_iff.2 fun c hc => isAscii_iff.1 ascii c (mem_of_mem_pieces hl c hc)

/-- Of a name in ASCII only the letters are changed before its labels are looked at. -/
theorem asciiName?_of_isAscii (ascii : isAscii s = true) :
    asciiName? s = ((pieces '.' (s.map Char.toLower)).mapM label?).bind fun labels =>
      if (isTwoWay (labels.map (·.meant)) && !(labels.map (·.meant)).all hasOneDirection)
          || (join ['.'] (labels.map (·.ascii))).any isForbidden then none
      else some (join ['.'] (labels.map (·.ascii))) := by
  have meanings : s.mapM meaning? = some (s.map fun c => [c.toLower]) :=
    mapM_eq_some fun c hc => by rw [meaning?, if_pos (isAscii_iff.1 ascii c hc)]
  have flat : (s.map fun c => [c.toLower]).flatten = s.map Char.toLower := by
    rw [← List.flatMap_def, List.map_eq_flatMap]
  have kept : normal (s.map Char.toLower) = s.map Char.toLower :=
    normal_of_ascii (isAscii_iff.1 (isAscii_lower ascii))
  rw [asciiName?, meanings]
  simp only [Option.bind_eq_bind, Option.bind_some, flat, kept]

/-- A name in ASCII stands for itself in small letters if no label is marked as an ASCII form. -/
theorem asciiName?_unmarked (ascii : isAscii s = true)
    (allowed : ∀ c ∈ s.map Char.toLower, isForbidden c = false)
    (unmarked : ∀ label ∈ pieces '.' (s.map Char.toLower), after? asciiMark label = none) :
    asciiName? s = some (s.map Char.toLower) := by
  have small := isAscii_lower ascii
  rw [asciiName?_of_isAscii ascii]
  generalize s.map Char.toLower = t at allowed unmarked small ⊢
  have labels : (pieces '.' t).mapM label? = some ((pieces '.' t).map fun label => ⟨label, label⟩) := by
    refine mapM_eq_some fun label hl => ?_
    rw [label?, unmarked label hl, isAscii_pieces small label hl]
    rfl
  have oneWay : isTwoWay (pieces '.' t) = false := by
    refine List.any_eq_false.2 fun label hl => ?_
    rw [Bool.not_eq_true, List.any_eq_false]
    intro c hc
    rw [not_isRightward_of_ascii (isAscii_iff.1 (isAscii_pieces small label hl) c hc)]
    exact Bool.false_ne_true
  have kept : t.any isForbidden = false := by
    refine List.any_eq_false.2 fun c hc => ?_
    rw [allowed c hc]
    exact Bool.false_ne_true
  have parts : ((pieces '.' t).map fun label => (⟨label, label⟩ : Label)).map (·.ascii) = pieces '.' t ∧
      ((pieces '.' t).map fun label => (⟨label, label⟩ : Label)).map (·.meant) = pieces '.' t := by
    constructor <;> rw [List.map_map] <;> exact List.map_id _
  rw [labels, Option.bind_some, parts.1, parts.2, join_pieces, oneWay, kept]
  rfl

theorem asciiName?_small (all : ∀ c ∈ s, IsSmall c)
    (unmarked : ∀ label ∈ pieces '.' s, after? asciiMark label = none) : asciiName? s = some s := by
  have ascii : isAscii s = true := isAscii_iff.2 fun c hc => (all c hc).ascii
  have lower : s.map Char.toLower = s :=
    (List.map_congr_left fun c hc => (all c hc).small).trans (List.map_id' s)
  have read := asciiName?_unmarked ascii
  rw [lower] at read
  exact read (fun c hc => (all c hc).allowed) unmarked

/-- A label in ASCII is its own ASCII form, if it has a meaning. -/
theorem ascii_of_label? {label : Label} (ascii : isAscii s = true) (h : label? s = some label) :
    label.ascii = s := by
  unfold label? at h
  split at h
  · split at h
    · obtain ⟨meant, -, rfl⟩ := Option.map_eq_some_iff.1 h
      rfl
    · cases h
  · rw [if_pos ascii] at h
    cases h
    rfl

theorem asciis_of_mapM_label? {labels : List Label} {texts : List (List Char)}
    (ascii : ∀ t ∈ texts, isAscii t = true) (h : texts.mapM label? = some labels) :
    labels.map (·.ascii) = texts := by
  induction texts generalizing labels with
  | nil =>
    cases h
    rfl
  | cons t texts ih =>
    obtain ⟨first, ascii⟩ := List.forall_mem_cons.1 ascii
    rw [List.mapM_cons] at h
    obtain ⟨label, found, h⟩ := Option.bind_eq_some_iff.1 h
    obtain ⟨labels, later, h⟩ := Option.bind_eq_some_iff.1 h
    cases h
    rw [List.map_cons, ascii_of_label? first found, ih ascii later]

/-- A name in ASCII is read as itself in small letters, which are read as themselves. -/
theorem asciiName?_again {name : List Char} (ascii : isAscii s = true) (h : asciiName? s = some name) :
    asciiName? name = some name := by
  have lower : (s.map Char.toLower).map Char.toLower = s.map Char.toLower := by
    rw [List.map_map]
    exact List.map_congr_left fun c hc => (toLower_of_ascii (isAscii_iff.1 ascii c hc)).2
  have same : asciiName? (s.map Char.toLower) = asciiName? s := by
    rw [asciiName?_of_isAscii (isAscii_lower ascii), lower, asciiName?_of_isAscii ascii]
  have whole : name = s.map Char.toLower := by
    rw [asciiName?_of_isAscii ascii] at h
    obtain ⟨labels, read, h⟩ := Option.bind_eq_some_iff.1 h
    split at h
    · cases h
    · rw [← Option.some.inj h, asciis_of_mapM_label? (isAscii_pieces (isAscii_lower ascii)) read, join_pieces]
  rw [whole, same, h, whole]

end MapLayer.Url.Domain
