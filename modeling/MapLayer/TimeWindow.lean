import MapLayer.DateMath
import MapLayer.Json.Decode
import MapLayer.Json.Shape

/-! The time window of a request: a slice chosen on the time slider, or the map's time range. -/

namespace MapLayer

structure TimeRange where
  start : String
  stop : String
deriving DecidableEq, Repr

/-- A slice between two times in milliseconds since 1970. -/
structure Timeslice where
  start : Float
  stop : Float
deriving DecidableEq

namespace TimeRange

def names : List String := ["from", "to"]

def shape : Json.Shape := .plain names

def decode (v : Json) : Json.Decoded TimeRange := do
  let fields ← Json.decodeFields "a time range" names v
  return {
    start := ← fields.required "from" Json.decodeString
    stop := ← fields.required "to" Json.decodeString }

def toJson (r : TimeRange) : Json :=
  .ofMembers [("from", .string r.start), ("to", .string r.stop)]

def lower? (r : TimeRange) (now : Instant) : Option Instant :=
  DateMath.eval? r.start now false

def upper? (r : TimeRange) (now : Instant) : Option Instant :=
  DateMath.eval? r.stop now true

end TimeRange

namespace Timeslice

def names : List String := ["from", "to"]

def shape : Json.Shape := .plain names

def decode (v : Json) : Json.Decoded Timeslice := do
  let fields ← Json.decodeFields "a timeslice" names v
  return {
    start := ← fields.required "from" Json.decodeFloat
    stop := ← fields.required "to" Json.decodeFloat }

def toJson (s : Timeslice) : Json :=
  .ofMembers [("from", .float s.start), ("to", .float s.stop)]

instance : BEq Timeslice := ⟨fun a b => a.start == b.start && a.stop == b.stop⟩

/-- The whole part of a float, cut to 64 bits. -/
def wholeMillis (x : Float) : Int :=
  let b := Decimal.Binary.ofBits x.toBits
  let n := b.significand * Nat.pow 2 b.exponent.toNat / Nat.pow 2 (-b.exponent).toNat
  if Decimal.isNegative x then -(min n (Nat.pow 2 63) : Nat) else (min n (Nat.pow 2 63 - 1) : Nat)

def instant? (millis : Float) : Option Instant :=
  if millis.isFinite then Instant.ofEpochMillis? (wholeMillis millis) else none

end Timeslice

/-- The two ends of the time window as text. A slice comes before a range, and a window without end
ends now. -/
def timeWindow (slice : Option Timeslice) (range : Option TimeRange) (now : Instant) :
    Option String × Option String :=
  match slice with
  | some s => ((Timeslice.instant? s.start).map (·.iso), (Timeslice.instant? s.stop).map (·.iso))
  | none =>
    let stop := (range.bind (·.upper? now)).getD now
    ((range.bind (·.lower? now)).map (·.iso), some stop.iso)

end MapLayer
