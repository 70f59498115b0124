import MapLayer.Xml.Event

/-! The attributes of tags. -/

namespace MapLayer.Xml

open MapLayer.Text

/-- An attribute with its value as it is written, or the place where there should be one. -/
inductive Attribute
  | pair (name value : List Char)
  | malformed

def quotedValue? (s : List Char) : Option (List Char × List Char) :=
  match skip s with
  | q :: r => if q = '"' ∨ q = '\'' then cut? [q] r else none
  | [] => none

/-- The name at the front of a text, which is at least one character long, and the text after the
equals sign behind it. -/
def attributeName? : List Char → Option (List Char × List Char)
  | [] => none
  | c :: s =>
    let isEnd (c : Char) : Bool := c == '=' || isSpacing c
    match skip (s.dropWhile (!isEnd ·)) with
    | '=' :: r => some (c :: s.takeWhile (!isEnd ·), r)
    | _ => none

theorem length_skip_le (s : List Char) : (skip s).length ≤ s.length :=
  (List.dropWhile_sublist isSpacing).length_le

theorem length_quotedValue? {s value rest : List Char} (h : quotedValue? s = some (value, rest)) :
    rest.length < s.length := by
  unfold quotedValue? at h
  split at h
  · rename_i q r e
    have a := length_skip_le s
    rw [e, List.length_cons] at a
    split at h
    · have := length_of_cut? h
      simp only [List.length_cons, List.length_nil] at this
      omega
    · contradiction
  · contradiction

theorem length_attributeName? {s name rest : List Char}
    (h : attributeName? s = some (name, rest)) : rest.length < s.length := by
  unfold attributeName? at h
  split at h
  · contradiction
  · rename_i c t
    dsimp only at h
    split at h
    · rename_i r e
      obtain ⟨-, rfl⟩ := Prod.mk.inj (Option.some.inj h)
      have a := length_skip_le (t.dropWhile (!(fun c => c == '=' || isSpacing c) ·))
      have b := (List.dropWhile_sublist (!(fun c => c == '=' || isSpacing c) ·) (l := t)).length_le
      rw [e, List.length_cons] at a
      simp only [List.length_cons]
      omega
    · contradiction

/-- The attributes after the name of a tag, given those before. No name may occur twice. -/
def attributesFrom (seen : List (List Char)) (s : List Char) : List Attribute :=
  if skip s = [] then []
  else match _h : attributeName? (skip s) with
    | none => [.malformed]
    | some (name, r) =>
      if seen.contains name then [.malformed]
      else match _h' : quotedValue? r with
        | none => [.malformed]
        | some (value, rest) => .pair name value :: attributesFrom (name :: seen) rest
termination_by s.length
decreasing_by
  have := length_skip_le s
  have := length_attributeName? _h
  have := length_quotedValue? _h'
  omega

def Tag.attributes (t : Tag) : List Attribute := attributesFrom [] t.rest

end MapLayer.Xml
