import MapLayer.Proofs.Style.Stored

/-!
Filters as nested arrays. Main statement: an array is read as a filter exactly if it is what is written of the
filter, so that reading alters none and no two arrays are read as the same one.
-/

namespace MapLayer

namespace Comparison

theorem ofSymbol?_symbol (operator : Comparison) : ofSymbol? operator.symbol = some operator := by
  cases operator <;> decide

/-- No operator is written like a connective. -/
theorem symbol_ne (operator : Comparison) :
    operator.symbol ≠ "&&" ∧ operator.symbol ≠ "||" ∧ operator.symbol ≠ "!" := by
  cases operator <;> decide

end Comparison

namespace StyleFilter

theorem ofJson_comparison (operator : Comparison) (property : String) (value : Json) :
    ofJson (.array [.string operator.symbol, .string property, value])
      = .ok (comparison operator property value) := by
  obtain ⟨both, either, negated⟩ := operator.symbol_ne
  rw [ofJson]
  · rw [Comparison.ofSymbol?_symbol]
  · exact both
  · exact either
  · exact negated

mutual

theorem ofJson_toJson (f : StyleFilter) : ofJson f.toJson = .ok f := by
  cases f with
  | comparison operator property value => exact ofJson_comparison operator property value
  | and filters => rw [toJson, ofJson, ofItems_itemsJson filters]; rfl
  | or filters => rw [toJson, ofJson, ofItems_itemsJson filters]; rfl
  | not filter => rw [toJson, ofJson, ofJson_toJson filter]; rfl

theorem ofItems_itemsJson (fs : List StyleFilter) : ofItems (itemsJson fs) = .ok fs := by
  cases fs with
  | nil => rfl
  | cons f fs => rw [itemsJson, ofItems, ofJson_toJson f, ofItems_itemsJson fs]; rfl

end

/-- Reading accepts exactly what is written of filters. -/
theorem ofJson_eq_ok_iff (v : Json) (f : StyleFilter) : ofJson v = .ok f ↔ f.toJson = v := by
  constructor
  · intro read
    exact toJson_of_ofJson v f read
  · rintro rfl
    exact ofJson_toJson f

end StyleFilter

end MapLayer
