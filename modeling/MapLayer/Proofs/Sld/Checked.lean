import MapLayer.Proofs.Sld.Summary

/-!
Documents of styles that pass the check. Main statement: as they are read, their colours and opacities are
proper and the bounds of their rules are in order.
-/

namespace MapLayer

def IsHexDigit (c : Char) : Prop := c.isDigit = true ∨ 'a' ≤ c ∧ c ≤ 'f' ∨ 'A' ≤ c ∧ c ≤ 'F'

theorem isHexDigit_of_hexValue? {c : Char} (h : (Json.hexValue? c).isSome = true) : IsHexDigit c := by
  unfold Json.hexValue? at h
  split at h
  · rename_i digit
    exact .inl digit
  · split at h
    · rename_i lower
      exact .inr (.inl lower)
    · split at h
      · rename_i upper
        exact .inr (.inr upper)
      · cases h

def IsColor (s : String) : Prop :=
  ∃ ds, s = String.ofList ('#' :: ds) ∧ ds.length = 6 ∧ ∀ c ∈ ds, IsHexDigit c

theorem isColor_of_isHexColor {s : String} (h : isHexColor s = true) : IsColor s := by
  unfold isHexColor at h
  split at h
  · rename_i ds letters
    rw [Bool.and_eq_true, beq_iff_eq, List.all_eq_true] at h
    refine ⟨ds, ?_, h.1, fun c hc => isHexDigit_of_hexValue? (h.2 c hc)⟩
    rw [← letters, String.ofList_toList]
  · cases h

theorem Symbolizer.of_fault? {s : Symbolizer} (h : s.fault? = none) :
    (∀ c ∈ s.colors, IsColor c) ∧ ∀ x ∈ s.opacities, 0.0 ≤ x ∧ x ≤ 1.0 := by
  unfold fault? at h
  split at h
  · cases h
  · rename_i proper
    rw [List.find?_eq_none] at proper
    split at h
    · rename_i within
      rw [List.all_eq_true] at within
      constructor
      · intro c hc
        exact isColor_of_isHexColor (by simpa using proper c hc)
      · intro x hx
        simpa [isOpacity] using within x hx
    · cases h

theorem StyleRule.of_fault? {r : StyleRule} (h : r.fault? = none) :
    (∀ range ∈ r.scale, range.isReversed = false) ∧ ∀ s ∈ r.symbolizers, s.fault? = none := by
  unfold fault? at h
  split at h
  · cases h
  · rename_i ordered
    constructor
    · intro range hr
      rw [Option.mem_def] at hr
      simpa [hr] using ordered
    · exact List.findSome?_eq_none_iff.1 h

theorem Style.of_check {s : Style} (h : s.check = .ok ()) : ∀ r ∈ s.rules, r.fault? = none := by
  unfold check at h
  split at h
  · cases h
  · rename_i none
    intro r hr
    simpa [StyleRule.failure?] using List.findSome?_eq_none_iff.1 none r hr

namespace Sld

open XmlNode

/-- What holds of an element of a document that respects the check. -/
structure Proper (e : XmlNode) : Prop where
  color : ∀ tag ∈ e.tag?, tag.1 = "CssParameter" →
    ("name", "fill") ∈ tag.2 ∨ ("name", "stroke") ∈ tag.2 →
    ∃ s, e.told? "CssParameter" = some s ∧ IsColor s
  opacity : ∀ tag ∈ e.tag?, tag.1 = "CssParameter" →
    ("name", "fill-opacity") ∈ tag.2 ∨ ("name", "stroke-opacity") ∈ tag.2 →
    ∃ x : Float, e.told? "CssParameter" = some (number x) ∧ 0.0 ≤ x ∧ x ≤ 1.0
  bounds : ∀ children ∈ e.inside? "Rule",
    ∀ a ∈ named "MinScaleDenominator" children, ∀ b ∈ named "MaxScaleDenominator" children,
    ∃ min max : Float, a.told? "MinScaleDenominator" = some (number min)
      ∧ b.told? "MaxScaleDenominator" = some (number max) ∧ ¬max < min

theorem proper_other {name : String} {attributes : List (String × String)}
    {children : List XmlNode} (parameter : name ≠ "CssParameter") (rule : name ≠ "Rule") :
    Proper (element name attributes children) := by
  constructor
  · rintro _ ⟨⟩ same
    exact absurd same parameter
  · rintro _ ⟨⟩ same
    exact absurd same parameter
  · intro children found
    simp [rule] at found

theorem proper_parameter {name value : String}
    (color : name = "fill" ∨ name = "stroke" → IsColor value)
    (opacity : name = "fill-opacity" ∨ name = "stroke-opacity" →
      ∃ x : Float, value = number x ∧ 0.0 ≤ x ∧ x ≤ 1.0) :
    Proper (parameter name value).normal := by
  have told : (parameter name value).normal.told? "CssParameter" = some value := told?_text _ _
  constructor
  · rintro _ ⟨⟩ -
    simp only [List.mem_singleton, Prod.mk.injEq, true_and]
    intro known
    exact ⟨value, told, color (known.imp Eq.symm Eq.symm)⟩
  · rintro _ ⟨⟩ -
    simp only [List.mem_singleton, Prod.mk.injEq, true_and]
    intro known
    obtain ⟨x, rfl, within⟩ := opacity (known.imp Eq.symm Eq.symm)
    exact ⟨x, told, within⟩
  · rintro _ ⟨⟩

theorem proper_rule {r : StyleRule} (ordered : ∀ range ∈ r.scale, range.isReversed = false) :
    Proper (rule r).normal := by
  constructor
  · rintro _ ⟨⟩ same
    simp at same
  · rintro _ ⟨⟩ same
    simp at same
  · intro children found a ha b hb
    rw [normal_rule] at found
    obtain rfl : (ruleChildren r).map normal = children := by simpa using found
    rw [named_low, List.mem_map] at ha
    rw [named_high, List.mem_map] at hb
    obtain ⟨_, low, rfl⟩ := ha
    obtain ⟨_, high, rfl⟩ := hb
    rw [Option.mem_toList, Option.map_eq_some_iff] at low high
    obtain ⟨min, low, rfl⟩ := low
    obtain ⟨max, high, rfl⟩ := high
    refine ⟨min, max, told?_leaf _, told?_leaf _, ?_⟩
    obtain ⟨range, known, low⟩ := Option.bind_eq_some_iff.1 low
    rw [known] at high
    have high : range.max = some max := high
    simpa [ScaleDenominator.isReversed, low, high] using ordered range known

/-- A checked style is drawn as the check has it: colours are colours, opacities lie between 0 and 1, and no
rule has a lower bound above its upper one. -/
theorem proper_write (layer : String) {style : Style} (valid : style.check = .ok ()) :
    ∃ t, Xml.tree? (write layer style) = some t ∧ t.Each Proper := by
  refine ⟨_, tree?_write layer style, each_normal (p := (Proper ·.normal)) (fun e h => h) _ ?_⟩
  have sound := Style.of_check valid
  have frame : HoldsOfFrame (Proper ·.normal) := by
    have apart : ∀ tag ∈ frameTags, tag.1 ≠ "CssParameter" ∧ tag.1 ≠ "Rule" := by decide
    constructor
    · intro tag known children
      rw [normal]
      exact proper_other (apart tag known).1 (apart tag known).2
    · intro name known value
      have other : ∀ n ∈ plainParameters, ¬(n = "fill" ∨ n = "stroke")
          ∧ ¬(n = "fill-opacity" ∨ n = "stroke-opacity") := by decide
      exact proper_parameter (absurd · (other name known).1) (absurd · (other name known).2)
  apply frame.each_document
  · intro r hr
    exact proper_rule (StyleRule.of_fault? (sound r hr)).1
  · intro r hr s hs color hc
    have known := (Symbolizer.of_fault? ((StyleRule.of_fault? (sound r hr)).2 s hs)).1 color hc
    exact ⟨proper_parameter (fun _ => known) (by simp),
      proper_parameter (fun _ => known) (by simp)⟩
  · intro r hr s hs x hx
    have known := (Symbolizer.of_fault? ((StyleRule.of_fault? (sound r hr)).2 s hs)).2 x hx
    exact ⟨proper_parameter (by simp) (fun _ => ⟨x, rfl, known⟩),
      proper_parameter (by simp) (fun _ => ⟨x, rfl, known⟩)⟩

def parcels : Style where
  name := "parcels"
  rules := [{
    name := "near"
    scale := some ⟨some 500.0, some 25000.0⟩
    symbolizers := [
      .fill { color := some "#2E8b57", fillOpacity := some 0.25, outlineColor := some "#000000" },
      .text { label := some "owner", color := some "#ffffff", opacity := some 1.0,
              haloColor := some "#123abc", haloOpacity := some 0.0 }] }]

theorem proper_write_parcels : parcels.check = .ok ()
    ∧ ∃ t, Xml.tree? (write "cadastre" parcels) = some t ∧ t.Each Proper :=
  ⟨rfl, proper_write "cadastre" rfl⟩

end Sld

end MapLayer
