import MapLayer.Proofs.Decimal.Distinct
import MapLayer.Proofs.Geometry.Stripped
import MapLayer.Proofs.Geometry.Wkt
import MapLayer.Proofs.Text.Joined

/-! Geometries told apart by their well-known text. Main statement: geometries whose vertices are lists of
finite numbers have the same text exactly if they are the same without features and signs of zero. -/

namespace MapLayer

open MapLayer.Text MapLayer.Cql

namespace Geometry

namespace Wkt

theorem number_eq {x y : Float} (fx : x.isFinite = true) (fy : y.isFinite = true)
    (same : number x = number y) : unsigned x = unsigned y := by
  have zero : '-' ∉ ['0'] ∧ Decimal.textValue ['0'] = 0 := by
    refine ⟨by decide, ?_⟩
    rw [Decimal.textValue, cut?_of_not_mem (by decide)]
    norm_num [Nat.ofDigitChars]
  unfold number at same
  unfold unsigned
  cases zx : x == 0.0 <;> cases zy : y == 0.0 <;> rw [zx, zy] at same
  · exact Decimal.plain_injective same
  · exact absurd same (Decimal.plain_ne fx zx zero.1 zero.2)
  · exact absurd same.symm (Decimal.plain_ne fy zy zero.1 zero.2)
  · rfl

theorem number_ne_nil {x : Float} (finite : x.isFinite = true) : number x ≠ [] := by
  unfold number
  cases zero : x == 0.0 with
  | true => exact List.cons_ne_nil _ _
  | false =>
    refine Decimal.plain_ne finite zero List.not_mem_nil ?_
    norm_num [Decimal.textValue, cut?, Nat.ofDigitChars]

theorem ended_number : Ended ' ' fun s => ∃ x : Float, x.isFinite = true ∧ number x = s := by
  refine ended_of_not_mem ?_ ?_
  · rintro _ ⟨x, finite, rfl⟩
    exact number_ne_nil finite
  · rintro _ ⟨x, -, rfl⟩ member
    have figure := isFigure_number member
    revert figure
    decide

theorem vertex_eq {p q : Position} (hp : IsVertex p) (hq : IsVertex q) (same : vertex p = vertex q) :
    unsignedVertex p = unsignedVertex q :=
  map_eq_of_join ended_number (fun _ _ => number_eq) hp.2 hq.2 same

theorem vertex_ne_nil {p : Position} (hp : IsVertex p) : vertex p ≠ [] := by
  cases p with
  | nil => exact absurd rfl hp.1
  | cons x p =>
    rw [vertex, List.map_cons, Text.join_cons]
    exact List.append_ne_nil_of_left_ne_nil (number_ne_nil (hp.2 x List.mem_cons_self)) _

theorem not_mem_vertex (p : Position) : ',' ∉ vertex p := by
  intro member
  rw [vertex, join_eq_intercalate] at member
  rcases mem_intercalate member with space | ⟨_, written, member⟩
  · cases List.mem_singleton.1 space
  · obtain ⟨x, -, rfl⟩ := List.mem_map.1 written
    have figure := isFigure_number member
    revert figure
    decide

theorem ended_vertex : Ended ',' fun s => ∃ p, IsVertex p ∧ vertex p = s := by
  refine ended_of_not_mem ?_ ?_
  · rintro _ ⟨p, hp, rfl⟩
    exact vertex_ne_nil hp
  · rintro _ ⟨p, -, rfl⟩
    exact not_mem_vertex p

theorem vertices_eq {ps qs : List Position} (hp : ∀ p ∈ ps, IsVertex p) (hq : ∀ q ∈ qs, IsVertex q)
    (same : vertices ps = vertices qs) : unsignedRow ps = unsignedRow qs :=
  map_eq_of_join ended_vertex (fun _ _ => vertex_eq) hp hq same

/-- A text in parentheses with a name or nothing before it. -/
def IsTerm (s : List Char) : Prop :=
  ∃ name run, Unbracketed name ∧ Enclosed run ∧ name ++ run = s

theorem runs_term {name run : List Char} (plain : Unbracketed name) (enclosed : Enclosed run)
    (rest : List Char) : runsFrom 0 [] (name ++ run ++ rest) = run :: runsFrom 0 [] rest := by
  rw [List.append_assoc, runsFrom_unbracketed plain, runsFrom_enclosed enclosed]

/-- A term ends where its first parenthesis is closed. -/
theorem ended_term (mark : Char) : Ended mark IsTerm := by
  have nonempty {run : List Char} (enclosed : Enclosed run) : ∃ s, run = '(' :: s := by
    obtain ⟨s, -, rfl⟩ := enclosed
    exact ⟨_, rfl⟩
  refine ⟨?_, ?_⟩
  · rintro _ ⟨name, run, -, enclosed, rfl⟩ empty
    obtain ⟨s, rfl⟩ := nonempty enclosed
    cases (List.append_eq_nil_iff.1 empty).2
  · rintro _ _ ⟨name, run, plain, enclosed, rfl⟩ ⟨other, ran, plainly, closed, rfl⟩ q r - - same
    have runs := congrArg (runsFrom 0 []) same
    rw [runs_term plain enclosed, runs_term plainly closed] at runs
    obtain rfl := (List.cons.inj runs).1
    obtain ⟨s, rfl⟩ := nonempty enclosed
    have front {name : List Char} (plain : Unbracketed name) (rest : List Char) :
        (name ++ '(' :: s ++ rest).takeWhile (· != '(') = name := by
      rw [List.append_assoc]
      exact takeWhile_ne_append (fun h => (plain _ h).1 rfl) _
    rw [← front plain q, same, front plainly r]

theorem isTerm_enclosed {body : List Char} (balanced : Balanced body) : IsTerm (enclosed body) :=
  ⟨[], _, nofun, ⟨body, balanced, rfl⟩, rfl⟩

theorem enclosed_injective {a b : List Char} (same : enclosed a = enclosed b) : a = b :=
  List.append_cancel_right (List.cons.inj same).2

theorem rings_eq {rs ts : List (List Position)} (hr : ∀ r ∈ rs, ∀ p ∈ r, IsVertex p)
    (ht : ∀ t ∈ ts, ∀ p ∈ t, IsVertex p) (same : rings rs = rings ts) :
    unsignedRings rs = unsignedRings ts := by
  have ended : Ended ',' fun s => ∃ r : List Position, (∀ p ∈ r, IsVertex p) ∧
      enclosed (vertices r) = s := by
    refine (ended_term ',').mono ?_
    rintro _ ⟨r, -, rfl⟩
    exact isTerm_enclosed (isRow_vertices r).unbracketed.balanced
  exact map_eq_of_join ended (fun _ _ hp hq h => vertices_eq hp hq (enclosed_injective h)) hr ht same

theorem polygons_eq {gs ts : List (List (List Position))}
    (hg : ∀ g ∈ gs, ∀ r ∈ g, ∀ p ∈ r, IsVertex p) (ht : ∀ t ∈ ts, ∀ r ∈ t, ∀ p ∈ r, IsVertex p)
    (same : polygons gs = polygons ts) : gs.map unsignedRings = ts.map unsignedRings := by
  have ended : Ended ',' fun s => ∃ g : List (List Position),
      (∀ r ∈ g, ∀ p ∈ r, IsVertex p) ∧ enclosed (rings g) = s := by
    refine (ended_term ',').mono ?_
    rintro _ ⟨g, -, rfl⟩
    exact isTerm_enclosed (balanced_rings g)
  exact map_eq_of_join ended (fun _ _ hr hs h => rings_eq hr hs (enclosed_injective h)) hg ht same

def keyword : GeometryKind → String
  | .point => "POINT"
  | .lineString => "LINESTRING"
  | .polygon => "POLYGON"
  | .multiPoint => "MULTIPOINT"
  | .multiLineString => "MULTILINESTRING"
  | .multiPolygon => "MULTIPOLYGON"
  | .collection => "GEOMETRYCOLLECTION"
  | .feature => ""

def body : Geometry → List Char
  | .point p => vertex p
  | .lineString ps | .multiPoint ps => vertices ps
  | .polygon rs | .multiLineString rs => rings rs
  | .multiPolygon gs => polygons gs
  | .collection members => join [',', ' '] (texts members)
  | .feature g => body g

theorem text_eq (g : Geometry) :
    ∃ first, text g = tagged (keyword g.bare.kind) first (body g) := by
  cases g with
  | feature g => exact text_eq g
  | _ => exact ⟨_, rfl⟩

theorem keyword_injective : ∀ k l : GeometryKind, k ≠ .feature → l ≠ .feature →
    (keyword k).toList = (keyword l).toList → k = l := by
  rintro ⟨⟩ ⟨⟩ <;> decide

theorem kind_bare_ne (g : Geometry) : g.bare.kind ≠ .feature := by
  cases g with
  | feature g => exact kind_bare_ne g
  | _ =>
    intro same
    cases same

theorem tagged_eq (k : String) (first : Option Position) (a : List Char) : tagged k first a
    = k.toList ++ ' ' :: ((if hasHeight first then ['Z', ' '] else []) ++ enclosed a) := by
  unfold tagged
  split <;> simp

theorem tagged_injective {k l : String} {first other : Option Position} {a b : List Char}
    (hk : ' ' ∉ k.toList) (hl : ' ' ∉ l.toList) (same : tagged k first a = tagged l other b) :
    k.toList = l.toList ∧ a = b := by
  rw [tagged_eq, tagged_eq] at same
  have names := congrArg (List.takeWhile (· != ' ')) same
  rw [takeWhile_ne_append hk, takeWhile_ne_append hl] at names
  refine ⟨names, ?_⟩
  rw [names] at same
  have rests := (List.cons.inj (List.append_cancel_left same)).2
  -- The mark for heights starts with a letter, the body with a parenthesis.
  split at rests <;> split at rests
  · exact enclosed_injective (List.append_cancel_left rests)
  · cases rests
  · cases rests
  · exact enclosed_injective rests

theorem kind_eq {g h : Geometry} (same : text g = text h) :
    g.bare.kind = h.bare.kind ∧ body g = body h := by
  have solid : ∀ k, ' ' ∉ (keyword k).toList := by
    rintro ⟨⟩ <;> decide
  obtain ⟨first, left⟩ := text_eq g
  obtain ⟨other, right⟩ := text_eq h
  rw [left, right] at same
  obtain ⟨keywords, bodies⟩ := tagged_injective (solid _) (solid _) same
  exact ⟨keyword_injective _ _ (kind_bare_ne g) (kind_bare_ne h) keywords, bodies⟩

theorem texts_eq_map (gs : List Geometry) : texts gs = gs.map text := by
  induction gs with
  | nil => rfl
  | cons g gs ih => rw [texts, ih, List.map_cons]

theorem balanced_body (g : Geometry) : Balanced (body g) := by
  cases g with
  | point p => exact (isRow_vertex p).unbracketed.balanced
  | lineString ps | multiPoint ps => exact (isRow_vertices ps).unbracketed.balanced
  | polygon rs | multiLineString rs => exact balanced_rings rs
  | multiPolygon gs => exact balanced_polygons gs
  | collection members => exact balanced_join (balanced_texts members)
  | feature g => exact balanced_body g

theorem isTerm_text (g : Geometry) : IsTerm (text g) := by
  obtain ⟨first, eq⟩ := text_eq g
  have plain : ∀ k, Unbracketed (keyword k).toList := by
    rintro ⟨⟩ <;> decide
  have gap : Unbracketed (if hasHeight first then [' ', 'Z', ' '] else [' ']) := by
    split <;> decide
  exact ⟨_, enclosed (body g), (plain g.bare.kind).append gap, ⟨body g, balanced_body g, rfl⟩, eq.symm⟩

theorem texts_injective {gs hs : List Geometry}
    (same : join [',', ' '] (texts gs) = join [',', ' '] (texts hs)) : texts gs = texts hs := by
  have term : ∀ gs : List Geometry, ∀ s ∈ texts gs, IsTerm s := by
    intro gs s hs
    rw [texts_eq_map] at hs
    obtain ⟨g, -, rfl⟩ := List.mem_map.1 hs
    exact isTerm_text g
  exact join_injective (ended_term ',') (term gs) (term hs) same

/-- The geometry below the features around it has the same text and is stripped to the same. -/
theorem bare_spec (g : Geometry) : text g.bare = text g ∧ body g.bare = body g ∧
    g.bare.stripped = g.stripped ∧ (g.IsSound → g.bare.IsSound) := by
  cases g with
  | feature g => exact bare_spec g
  | _ => exact ⟨rfl, rfl, rfl, id⟩

mutual

theorem stripped_eq (g h : Geometry) (hg : g.IsSound) (hh : h.IsSound) (same : text g = text h) :
    g.stripped = h.stripped := by
  obtain ⟨kinds, bodies⟩ := kind_eq same
  obtain ⟨sameText, sameBody, sameStripped, sound⟩ := bare_spec h
  -- features around `h` go first, so that the kinds agree where `g` has none either
  rw [← sameText] at same
  rw [← sameBody] at bodies
  rw [← sameStripped]
  have hb := sound hh
  generalize h.bare = b at kinds bodies same hb
  cases g with
  | feature g => exact stripped_eq g b hg hb same
  | point p =>
    cases b with
    | point q => exact congrArg Geometry.point (vertex_eq hg hb bodies)
    | _ => cases kinds
  | lineString ps =>
    cases b with
    | lineString qs => exact congrArg Geometry.lineString (vertices_eq hg hb bodies)
    | _ => cases kinds
  | polygon rs =>
    cases b with
    | polygon ts => exact congrArg Geometry.polygon (rings_eq hg hb bodies)
    | _ => cases kinds
  | multiPoint ps =>
    cases b with
    | multiPoint qs => exact congrArg Geometry.multiPoint (vertices_eq hg hb bodies)
    | _ => cases kinds
  | multiLineString rs =>
    cases b with
    | multiLineString ts => exact congrArg Geometry.multiLineString (rings_eq hg hb bodies)
    | _ => cases kinds
  | multiPolygon gs =>
    cases b with
    | multiPolygon ts => exact congrArg Geometry.multiPolygon (polygons_eq hg hb bodies)
    | _ => cases kinds
  | collection gs =>
    cases b with
    | collection hs =>
      exact congrArg Geometry.collection (strippedAll_eq gs hs hg hb (texts_injective bodies))
    | _ => cases kinds

theorem strippedAll_eq (gs hs : List Geometry) (hg : AllSound gs) (hh : AllSound hs)
    (same : texts gs = texts hs) : strippedAll gs = strippedAll hs := by
  cases gs with
  | nil =>
    cases hs with
    | nil => rfl
    | cons h hs => cases same
  | cons g gs =>
    cases hs with
    | nil => cases same
    | cons h hs =>
      obtain ⟨first, others⟩ := List.cons.inj same
      rw [strippedAll, strippedAll, stripped_eq g h hg.1 hh.1 first,
        strippedAll_eq gs hs hg.2 hh.2 others]

end

end Wkt

/-- Geometries whose vertices are lists of finite numbers have the same well-known text exactly if they
are the same without features and signs of zero. -/
theorem wkt_eq_iff {g h : Geometry} (hg : g.IsSound) (hh : h.IsSound) :
    g.wkt = h.wkt ↔ g.stripped = h.stripped := by
  unfold wkt
  rw [String.ofList_inj]
  constructor
  · exact Wkt.stripped_eq g h hg hh
  · intro same
    rw [← Wkt.text_stripped g, same, Wkt.text_stripped h]

theorem wkt_eq_wrapped :
    let g : Geometry := .collection [.feature (.point [-0.0, 1.5]), .polygon [[[1.0, 2.0, 3.0]], []]]
    let h : Geometry := .feature (.collection [.point [0.0, 1.5], .polygon [[[1.0, 2.0, 3.0]], []]])
    g.IsSound ∧ h.IsSound ∧ (g.wkt = h.wkt ↔ g.stripped = h.stripped) ∧ g.wkt = h.wkt := by
  intro g h
  have sound : g.IsSound ∧ h.IsSound := by
    simp only [g, h, IsSound, AllSound, IsVertex]
    decide
  have same := wkt_eq_iff sound.1 sound.2
  exact ⟨sound.1, sound.2, same, same.2 rfl⟩

end Geometry

end MapLayer
