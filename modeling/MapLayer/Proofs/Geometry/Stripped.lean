import MapLayer.Geometry.Wkt

/-! Geometries without what their text does not show. Main statement: features and signs of zero leave no
trace in the well-known text. -/

namespace MapLayer

namespace Geometry

/-- A number whose sign does not show if it is zero. -/
def unsigned (x : Float) : Float := if x == 0.0 then 0.0 else x

def unsignedVertex (p : Position) : Position := p.map unsigned

def unsignedRow (ps : List Position) : List Position := ps.map unsignedVertex

def unsignedRings (rs : List (List Position)) : List (List Position) := rs.map unsignedRow

mutual

/-- What is left of a geometry without features around it or its members and without signs of zero. -/
def stripped : Geometry → Geometry
  | .point p => .point (unsignedVertex p)
  | .lineString ps => .lineString (unsignedRow ps)
  | .polygon rs => .polygon (unsignedRings rs)
  | .multiPoint ps => .multiPoint (unsignedRow ps)
  | .multiLineString rs => .multiLineString (unsignedRings rs)
  | .multiPolygon gs => .multiPolygon (gs.map unsignedRings)
  | .collection members => .collection (strippedAll members)
  | .feature g => stripped g

def strippedAll : List Geometry → List Geometry
  | [] => []
  | g :: gs => stripped g :: strippedAll gs

end

/-- A vertex has at least one coordinate, and only finite ones. -/
def IsVertex (p : Position) : Prop := p ≠ [] ∧ ∀ x ∈ p, x.isFinite = true

mutual

def IsSound : Geometry → Prop
  | .point p => IsVertex p
  | .lineString ps | .multiPoint ps => ∀ p ∈ ps, IsVertex p
  | .polygon rs | .multiLineString rs => ∀ r ∈ rs, ∀ p ∈ r, IsVertex p
  | .multiPolygon gs => ∀ g ∈ gs, ∀ r ∈ g, ∀ p ∈ r, IsVertex p
  | .collection members => AllSound members
  | .feature g => IsSound g

def AllSound : List Geometry → Prop
  | [] => True
  | g :: gs => IsSound g ∧ AllSound gs

end

namespace Wkt

theorem number_unsigned (x : Float) : number (unsigned x) = number x := by
  unfold unsigned
  split
  · rename_i zero
    rw [number, number, if_pos zero]
    rfl
  · rfl

theorem vertex_unsigned (p : Position) : vertex (unsignedVertex p) = vertex p := by
  rw [vertex, vertex, unsignedVertex, List.map_map]
  exact congrArg _ (List.map_congr_left fun x _ => number_unsigned x)

theorem vertices_unsigned (ps : List Position) : vertices (unsignedRow ps) = vertices ps := by
  rw [vertices, vertices, unsignedRow, List.map_map]
  exact congrArg _ (List.map_congr_left fun p _ => vertex_unsigned p)

theorem rings_unsigned (rs : List (List Position)) : rings (unsignedRings rs) = rings rs := by
  rw [rings, rings, unsignedRings, List.map_map]
  exact congrArg _ (List.map_congr_left fun r _ => congrArg enclosed (vertices_unsigned r))

theorem polygons_unsigned (gs : List (List (List Position))) :
    polygons (gs.map unsignedRings) = polygons gs := by
  rw [polygons, polygons, List.map_map]
  exact congrArg _ (List.map_congr_left fun g _ => congrArg enclosed (rings_unsigned g))

theorem hasHeight_map (p : Option Position) : hasHeight (p.map unsignedVertex) = hasHeight p := by
  cases p with
  | none => rfl
  | some p => simp [hasHeight, unsignedVertex]

theorem tagged_unsigned (k : String) (p : Option Position) (a : List Char) :
    tagged k (p.map unsignedVertex) a = tagged k p a := by
  rw [tagged, tagged, hasHeight_map]

theorem head_row (ps : List Position) :
    (unsignedRow ps).head? = ps.head?.map unsignedVertex := List.head?_map

theorem head_rings (rs : List (List Position)) :
    (unsignedRings rs).head?.bind List.head? = (rs.head?.bind List.head?).map unsignedVertex := by
  cases rs with
  | nil => rfl
  | cons r rs => exact head_row r

theorem head_polygons (gs : List (List (List Position))) :
    ((gs.map unsignedRings).head?.bind List.head?).bind List.head?
      = ((gs.head?.bind List.head?).bind List.head?).map unsignedVertex := by
  cases gs with
  | nil => rfl
  | cons g gs => exact head_rings g

mutual

theorem text_stripped : (g : Geometry) → text g.stripped = text g
  | .point p => by
    rw [stripped, text, text, vertex_unsigned]
    exact tagged_unsigned "POINT" (some p) _
  | .lineString ps => by rw [stripped, text, text, vertices_unsigned, head_row, tagged_unsigned]
  | .multiPoint ps => by rw [stripped, text, text, vertices_unsigned, head_row, tagged_unsigned]
  | .polygon rs => by rw [stripped, text, text, rings_unsigned, head_rings, tagged_unsigned]
  | .multiLineString rs => by rw [stripped, text, text, rings_unsigned, head_rings, tagged_unsigned]
  | .multiPolygon gs => by
    rw [stripped, text, text, polygons_unsigned, head_polygons, tagged_unsigned]
  | .collection gs => by
    rw [stripped, text, text, texts_stripped gs]
  | .feature g => text_stripped g

theorem texts_stripped : (gs : List Geometry) → texts (strippedAll gs) = texts gs
  | [] => rfl
  | g :: gs => by rw [strippedAll, texts, texts, text_stripped g, texts_stripped gs]

end

end Wkt

end Geometry

end MapLayer
