import MapLayer.Failure
import MapLayer.Json.Parser
import MapLayer.Style.Json

/-! Checking the colours and the numbers of styles. -/

namespace MapLayer

/-- Whether a text is a hash sign and six hexadecimal digits. -/
def isHexColor (s : String) : Bool :=
  match s.toList with
  | '#' :: ds => ds.length == 6 && ds.all fun c => (Json.hexValue? c).isSome
  | _ => false

def isOpacity (x : Float) : Bool := 0.0 ≤ x && x ≤ 1.0

namespace Symbolizer

def colors : Symbolizer → List String
  | fill s => [s.color, s.outlineColor].filterMap id
  | line s => [s.color].filterMap id
  | mark s => [s.color, s.strokeColor].filterMap id
  | text s => [s.color, s.haloColor].filterMap id
  | icon _ | raster _ => []

def opacities : Symbolizer → List Float
  | fill s => [s.opacity, s.fillOpacity, s.outlineOpacity].filterMap id
  | line s => [s.opacity].filterMap id
  | mark s => [s.opacity, s.strokeOpacity].filterMap id
  | text s => [s.opacity, s.haloOpacity].filterMap id
  | icon _ | raster _ => []

def fault? (s : Symbolizer) : Option String :=
  match s.colors.find? (!isHexColor ·) with
  | some color => some ("bad color '" ++ color ++ "'")
  | none => if s.opacities.all isOpacity then none else some "opacity must be within 0..1"

end Symbolizer

def ScaleDenominator.isReversed (s : ScaleDenominator) : Bool :=
  match s.min, s.max with
  | some min, some max => max < min
  | _, _ => false

namespace StyleRule

/-- What is wrong with a rule, its scale first. -/
def fault? (r : StyleRule) : Option String :=
  if r.scale.any (·.isReversed) then some "scale min exceeds max"
  else r.symbolizers.findSome? Symbolizer.fault?

def failure? (r : StyleRule) : Option Failure :=
  r.fault?.map (.invalidParameter ("style rule '" ++ r.name ++ "'"))

end StyleRule

namespace Style

/-- Accepts a style without fault, and otherwise tells the first. -/
def check (s : Style) : Outcome Unit :=
  match s.rules.findSome? StyleRule.failure? with
  | some failure => .error failure
  | none => .ok ()

/-- The style of a text, with its rules checked. Why a text is no JSON is left out. -/
def parse (text : String) : Outcome Style :=
  match Json.parseAs? shape text with
  | none => .error (.internal "JSON error")
  | some v => match decode v with
    | .error m => .error (.internal s!"JSON error: {m.message}")
    | .ok s => do
      s.check
      return s

end Style

end MapLayer
