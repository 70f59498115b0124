import MapLayer.Geometry.Wkt
import MapLayer.Proofs.Cql.Runs
import MapLayer.Proofs.Text.Pieces

/-! The parentheses of well-known text. Main statement: they are balanced, whatever the geometry. -/

namespace MapLayer

namespace Decimal

/-- The characters of numbers written without exponent, also of those that are no finite numbers. -/
def isFigure (c : Char) : Bool :=
  c.isDigit || ['-', '.', 'N', 'a', 'i', 'n', 'f'].contains c

theorem isFigure_digitsOf {n : Nat} {c : Char} (h : c ∈ digitsOf n) : isFigure c = true := by
  simp [isFigure, Nat.isDigit_of_mem_toDigits (by decide) (by decide) h]

theorem isFigure_withPoint {whole ds : List Char} (ends : ∀ c ∈ whole, isFigure c = true)
    (figures : ∀ c ∈ ds, isFigure c = true) (e : Int) {c : Char} (h : c ∈ withPoint whole ds e) :
    isFigure c = true := by
  have zeros : ∀ {k : Nat}, c ∈ List.replicate k '0' → isFigure c = true := by
    intro k hc
    rw [List.eq_of_mem_replicate hc]
    decide
  unfold withPoint at h
  split at h
  · rcases List.mem_append.1 h with h | h
    · rcases List.mem_append.1 h with h | h
      · exact figures c h
      · exact zeros h
    · exact ends c h
  · dsimp only at h
    split at h
    · rcases List.mem_append.1 h with h | h
      · exact figures c (List.mem_of_mem_take h)
      · rcases List.mem_cons.1 h with rfl | h
        · decide
        · exact figures c (List.mem_of_mem_drop h)
    · rcases List.mem_cons.1 h with rfl | h
      · decide
      · rcases List.mem_cons.1 h with rfl | h
        · decide
        · rcases List.mem_append.1 h with h | h
          · exact zeros h
          · exact figures c h

/-- Besides its magnitude a number is written with a sign or a name. -/
theorem mem_text {layout : Layout} {x : Float} {c : Char} (h : c ∈ layout.text x) :
    isFigure c = true ∨ c ∈ layout.magnitude (.ofBits x.toBits) := by
  have sign : ∀ {b : Bool}, c ∈ (if b then ['-'] else []) → isFigure c = true := by
    intro b hc
    cases b with
    | false => cases hc
    | true =>
      obtain rfl := List.mem_singleton.1 hc
      decide
  have named {name : List Char} (figures : ∀ d ∈ name, isFigure d = true) (hc : c ∈ name) :
      isFigure c = true := figures c hc
  simp only [Layout.text] at h
  split at h
  · exact .inl (named (by decide) h)
  · split at h
    · rcases List.mem_append.1 h with h | h
      · exact .inl (sign h)
      · exact .inl (named (by decide) h)
    · exact (List.mem_append.1 h).imp_left sign

theorem Layout.magnitude_ne_nil (layout : Layout) (x : Binary) : layout.magnitude x ≠ [] := by
  simp only [Layout.magnitude]
  split
  · unfold withPoint
    split
    · simp [digitsOf, Nat.toDigits_ne_nil]
    · dsimp only
      split <;> simp
  · simp [scientific]

theorem Layout.text_ne_nil (layout : Layout) (x : Float) : layout.text x ≠ [] := by
  simp only [Layout.text]
  split
  · exact List.cons_ne_nil _ _
  · split
    · simp
    · exact List.append_ne_nil_of_right_ne_nil _ (layout.magnitude_ne_nil _)

theorem isFigure_plain {x : Float} {c : Char} (h : c ∈ plain x) : isFigure c = true := by
  rcases mem_text h with figure | h
  · exact figure
  · exact isFigure_withPoint (by decide) (fun c => isFigure_digitsOf) _ h

end Decimal

namespace Geometry.Wkt

open MapLayer.Cql

def IsRow (s : List Char) : Prop :=
  ∀ c ∈ s, Decimal.isFigure c = true ∨ c = ' ' ∨ c = ','

theorem IsRow.unbracketed {s : List Char} (row : IsRow s) : Unbracketed s := by
  intro c hc
  rcases row c hc with figure | rfl | rfl
  · constructor <;> (rintro rfl; revert figure; decide)
  · decide
  · decide

theorem isFigure_number {x : Float} {c : Char} (h : c ∈ number x) : Decimal.isFigure c = true := by
  unfold number at h
  split at h
  · obtain rfl := List.mem_singleton.1 h
    decide
  · exact Decimal.isFigure_plain h

theorem isRow_number (x : Float) : IsRow (number x) := fun _ hc => .inl (isFigure_number hc)

theorem isRow_join {mark : List Char} (hm : IsRow mark) {texts : List (List Char)}
    (rows : ∀ t ∈ texts, IsRow t) : IsRow (Text.join mark texts) := by
  intro c hc
  rw [Text.join_eq_intercalate] at hc
  rcases Text.mem_intercalate hc with h | ⟨t, ht, h⟩
  · exact hm c h
  · exact rows t ht c h

theorem isRow_vertex (p : Position) : IsRow (vertex p) := by
  apply isRow_join
  · simp [IsRow]
  · intro t ht
    obtain ⟨x, _, rfl⟩ := List.mem_map.1 ht
    exact isRow_number x

theorem isRow_vertices (ps : List Position) : IsRow (vertices ps) := by
  apply isRow_join
  · simp [IsRow]
  · intro t ht
    obtain ⟨p, _, rfl⟩ := List.mem_map.1 ht
    exact isRow_vertex p

theorem balanced_join {texts : List (List Char)} (balanced : ∀ t ∈ texts, Balanced t) :
    Balanced (Text.join [',', ' '] texts) := by
  rw [Text.join_eq_intercalate]
  exact Balanced.intercalate (by decide) balanced

theorem balanced_rings (rs : List (List Position)) : Balanced (rings rs) := by
  apply balanced_join
  intro t ht
  obtain ⟨r, _, rfl⟩ := List.mem_map.1 ht
  exact (isRow_vertices r).unbracketed.balanced.enclosed

theorem balanced_polygons (gs : List (List (List Position))) : Balanced (polygons gs) := by
  apply balanced_join
  intro t ht
  obtain ⟨g, _, rfl⟩ := List.mem_map.1 ht
  exact (balanced_rings g).enclosed

theorem balanced_tagged {keyword : String} (plain : Unbracketed keyword.toList)
    (first : Option Position) {body : List Char} (balanced : Balanced body) :
    Balanced (tagged keyword first body) := by
  have gap : Unbracketed (if hasHeight first then [' ', 'Z', ' '] else [' ']) := by
    split <;> simp [Unbracketed]
  exact (plain.append gap).balanced.append balanced.enclosed

mutual

theorem balanced_text : (g : Geometry) → Balanced (text g)
  | .point p => balanced_tagged (by decide) _ (isRow_vertex p).unbracketed.balanced
  | .lineString ps => balanced_tagged (by decide) _ (isRow_vertices ps).unbracketed.balanced
  | .multiPoint ps => balanced_tagged (by decide) _ (isRow_vertices ps).unbracketed.balanced
  | .polygon rs => balanced_tagged (by decide) _ (balanced_rings rs)
  | .multiLineString rs => balanced_tagged (by decide) _ (balanced_rings rs)
  | .multiPolygon gs => balanced_tagged (by decide) _ (balanced_polygons gs)
  | .collection members => balanced_tagged (by decide) _ (balanced_join (balanced_texts members))
  | .feature g => balanced_text g

theorem balanced_texts : (gs : List Geometry) → ∀ t ∈ texts gs, Balanced t
  | [], _, ht => nomatch ht
  | g :: gs, t, ht => by
    rcases List.mem_cons.1 ht with rfl | ht
    · exact balanced_text g
    · exact balanced_texts gs t ht

end

end Geometry.Wkt

end MapLayer
