import MapLayer.Proofs.Style.Symbolizer

/-!
Styles as they are stored. Main statements: what is written of a style is read as the same style, and the
unknown members of the style, its rules and their symbolizers are kept in their places.
-/

namespace MapLayer

open Json

variable {v : Json}

section filters

namespace Comparison

theorem symbol_of_ofSymbol? {s : String} {operator : Comparison} (h : ofSymbol? s = some operator) :
    operator.symbol = s := by
  simpa using List.find?_some h

end Comparison

namespace StyleFilter

mutual

/-- A filter is written as it was read. -/
theorem toJson_of_ofJson (v : Json) (f : StyleFilter) (h : ofJson v = .ok f) : f.toJson = v := by
  cases v with
  | array items =>
    cases items with
    | nil => cases h
    | cons head operands =>
      cases head with
      | string symbol =>
        -- the recursion stays on the operands, so the symbols are told apart before it is unfolded
        by_cases both : symbol = "&&"
        · subst both
          obtain ⟨fs, read, rfl⟩ := Outcome.map_eq_ok.1 h
          rw [toJson, itemsJson_of_ofItems operands fs read]
        by_cases either : symbol = "||"
        · subst either
          obtain ⟨fs, read, rfl⟩ := Outcome.map_eq_ok.1 h
          rw [toJson, itemsJson_of_ofItems operands fs read]
        by_cases negated : symbol = "!"
        · subst negated
          rcases operands with _ | ⟨operand, _ | _⟩
          · cases h
          · obtain ⟨g, read, rfl⟩ := Outcome.map_eq_ok.1 h
            rw [toJson, toJson_of_ofJson operand g read]
          · cases h
        rw [ofJson] at h
        · split at h
          · cases h
          · rename_i operator known
            split at h
            · cases h
              rw [toJson, Comparison.symbol_of_ofSymbol? known]
            · cases h
        · exact both
        · exact either
        · exact negated
      | _ => cases h
  | _ => cases h

theorem itemsJson_of_ofItems (vs : List Json) (fs : List StyleFilter) (h : ofItems vs = .ok fs) :
    itemsJson fs = vs := by
  cases vs with
  | nil =>
    cases h
    rfl
  | cons v vs =>
    rw [ofItems] at h
    simp only [Outcome.bind_eq_ok, Outcome.pure_eq_ok] at h
    obtain ⟨f, first, fs, rest, rfl⟩ := h
    rw [itemsJson, toJson_of_ofJson v f first, itemsJson_of_ofItems vs fs rest]

end

theorem decode_toJson {v : Json} {f : StyleFilter} (h : decode v = .ok f) : decode f.toJson = .ok f := by
  have read : ofJson v.canonical = .ok f := by
    unfold decode at h
    cases found : ofJson v.canonical with
    | error m =>
      rw [found] at h
      cases h
    | ok g =>
      rw [found] at h
      cases h
      rfl
  rw [decode, toJson_of_ofJson _ f read, isCanonical_canonical, read]
  rfl

end StyleFilter

end filters

section scales

namespace ScaleDenominator

theorem decode_toJson (s : ScaleDenominator) : decode s.toJson = .ok s := by
  obtain ⟨fields, opened, found⟩ := decodeFields_ofMembers "a range of scales" names
    (optionalMember "min" .float s.min ++ optionalMember "max" .float s.max)
  simp [Keyed.lastOf_append] at found
  simp [decode, toJson, opened, optional_eq, found, bind, Except.bind, pure, Except.pure]

end ScaleDenominator

end scales

section texts

variable {names : List String} {name k s : String}

@[simp] theorem lastOf_textMember : Keyed.lastOf k (textMember name s)
    = if k = name then (if s = "" then none else some (.string s)) else none := by
  by_cases empty : s = "" <;> simp [textMember, empty, Keyed.lastOf_cons]

@[simp] theorem within_textMember (known : name ∈ names) : Within names (textMember name s) := by
  by_cases empty : s = "" <;> simp [textMember, empty, known]

theorem orElse_text {fields : Fields}
    (found : fields.lookup name = if s = "" then none else some (.string s)) :
    fields.orElse name "" decodeString = .ok s := by
  by_cases empty : s = "" <;> simp [Fields.orElse, found, empty, decodeString]

end texts

section rules

namespace StyleRule

abbrev known : List String := ["name", "filter", "scaleDenominator", "symbolizers"]

def own (r : StyleRule) : List (String × Json) :=
  textMember "name" r.name
    ++ optionalMember "filter" StyleFilter.toJson r.filter
    ++ optionalMember "scaleDenominator" ScaleDenominator.toJson r.scale
    ++ [("symbolizers", .array (r.symbolizers.map Symbolizer.toJson))]

theorem toJson_eq (r : StyleRule) : r.toJson = ofMembers (r.own ++ r.extra.entries) := by
  simp [toJson, own]

theorem within_own (r : StyleRule) : Within known r.own := by
  simp [own, known]

theorem opened_of_decode {r : StyleRule} (h : decode v = .ok r) :
    ∃ fields, decodeOpen "a rule" known v = .ok (fields, r.extra)
      ∧ fields.optional "filter" StyleFilter.decode = .ok r.filter
      ∧ fields.orElse "symbolizers" [] (decodeList Symbolizer.decode) = .ok r.symbolizers := by
  simp only [decode, Outcome.bind_eq_ok, Outcome.pure_eq_ok] at h
  obtain ⟨⟨fields, extra⟩, opened, _, _, _, filter, _, _, _, symbolizers, rfl⟩ := h
  exact ⟨fields, opened, filter, symbolizers⟩

theorem decode_toJson {r : StyleRule} (h : decode v = .ok r) : decode r.toJson = .ok r := by
  obtain ⟨_, opened, filter, symbolizers⟩ := opened_of_decode h
  obtain ⟨fields, opened, found⟩ :=
    decodeOpen_ofMembers "a rule" rfl r.within_own (unknown_of_decodeOpen opened)
  have filter : decodeFound StyleFilter.decode (r.filter.map StyleFilter.toJson) = .ok r.filter := by
    refine decodeFound_map (fun f hf => ?_) (fun f => by cases f <;> simp [StyleFilter.toJson])
    obtain ⟨u, read⟩ := of_optional filter f hf
    exact StyleFilter.decode_toJson read
  have scale : decodeFound ScaleDenominator.decode (r.scale.map ScaleDenominator.toJson)
      = .ok r.scale :=
    decodeFound_map (fun s _ => s.decode_toJson) nofun
  have symbolizers : decodeList Symbolizer.decode (.array (r.symbolizers.map Symbolizer.toJson))
      = .ok r.symbolizers := by
    refine decodeList_map fun s hs => ?_
    obtain ⟨u, read⟩ := of_list symbolizers s hs
    exact Symbolizer.decode_toJson read
  simp [own, Keyed.lastOf_append, Keyed.lastOf_cons] at found
  obtain ⟨name, chosen, range, drawn⟩ := found
  rw [toJson_eq, decode, opened]
  simp [orElse_text name, optional_eq, chosen, filter, range, scale, orElse_eq drawn, symbolizers,
    bind, Except.bind, pure, Except.pure]

theorem get?_toJson {r : StyleRule} (h : decode v = .ok r) {k : String} (other : k ∉ known) :
    r.toJson.get? k = v.canonical.get? k := by
  obtain ⟨_, opened, -⟩ := opened_of_decode h
  rw [toJson_eq]
  exact get?_written opened rfl r.within_own other

theorem alike_symbolizers {r : StyleRule} (h : decode v = .ok r) (i : ℕ) :
    Alike Symbolizer.decode Symbolizer.toJson
      (r.toJson.below? [.member "symbolizers", .item i])
      (v.canonical.below? [.member "symbolizers", .item i]) := by
  obtain ⟨_, opened, -, symbolizers⟩ := opened_of_decode h
  have written : r.toJson.get? "symbolizers"
      = some (.array (r.symbolizers.map Symbolizer.toJson)) := by
    rw [toJson_eq, get?_ofMembers, lastOf_own (unknown_of_decodeOpen opened) (by decide)]
    simp [own, Keyed.lastOf_append, Keyed.lastOf_cons]
  exact alike_list opened (by decide) symbolizers written i

end StyleRule

namespace Style

abbrev known : List String := ["name", "rules"]

def own (s : Style) : List (String × Json) :=
  textMember "name" s.name ++ [("rules", .array (s.rules.map StyleRule.toJson))]

theorem toJson_eq (s : Style) : s.toJson = ofMembers (s.own ++ s.extra.entries) := by
  simp [toJson, own]

theorem within_own (s : Style) : Within known s.own := by
  simp [own, known]

theorem opened_of_decode {s : Style} (h : decode v = .ok s) :
    ∃ fields, decodeOpen "a style" known v = .ok (fields, s.extra)
      ∧ fields.orElse "rules" [] (decodeList StyleRule.decode) = .ok s.rules := by
  simp only [decode, Outcome.bind_eq_ok, Outcome.pure_eq_ok] at h
  obtain ⟨⟨fields, extra⟩, opened, _, _, _, rules, rfl⟩ := h
  exact ⟨fields, opened, rules⟩

theorem decode_toJson {s : Style} (h : decode v = .ok s) : decode s.toJson = .ok s := by
  obtain ⟨_, opened, rules⟩ := opened_of_decode h
  obtain ⟨fields, opened, found⟩ :=
    decodeOpen_ofMembers "a style" rfl s.within_own (unknown_of_decodeOpen opened)
  have rules : decodeList StyleRule.decode (.array (s.rules.map StyleRule.toJson)) = .ok s.rules := by
    refine decodeList_map fun r hr => ?_
    obtain ⟨u, read⟩ := of_list rules r hr
    exact StyleRule.decode_toJson read
  simp [own, Keyed.lastOf_append, Keyed.lastOf_cons] at found
  obtain ⟨name, drawn⟩ := found
  rw [toJson_eq, decode, opened]
  simp [orElse_text name, orElse_eq drawn, rules, bind, Except.bind, pure, Except.pure]

theorem get?_toJson {s : Style} (h : decode v = .ok s) {k : String} (other : k ∉ known) :
    s.toJson.get? k = v.canonical.get? k := by
  obtain ⟨_, opened, -⟩ := opened_of_decode h
  rw [toJson_eq]
  exact get?_written opened rfl s.within_own other

theorem alike_rules {s : Style} (h : decode v = .ok s) (i : ℕ) :
    Alike StyleRule.decode StyleRule.toJson (s.toJson.below? [.member "rules", .item i])
      (v.canonical.below? [.member "rules", .item i]) := by
  obtain ⟨_, opened, rules⟩ := opened_of_decode h
  have written : s.toJson.get? "rules" = some (.array (s.rules.map StyleRule.toJson)) := by
    rw [toJson_eq, get?_ofMembers, lastOf_own (unknown_of_decodeOpen opened) (by decide)]
    simp [own, Keyed.lastOf_append, Keyed.lastOf_cons]
  exact alike_list opened (by decide) rules written i

end Style

end rules

end MapLayer
