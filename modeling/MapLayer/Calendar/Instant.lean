import MapLayer.Calendar.Date
import MapLayer.Decimal.Layout

/-!
Instants in universal time, to the nanosecond. A leap second is the second before it with a
billion nanoseconds or more.
-/

namespace MapLayer

/-- An instant: day, second of the day and nanosecond of the second. -/
structure Instant where
  day : Int
  second : Nat
  nano : Nat
deriving DecidableEq, Repr

namespace Instant

def billion : Nat := 1000000000

def secondsPerDay : Nat := 86400

def isValid (t : Instant) : Bool :=
  t.second < secondsPerDay && t.nano < 2 * billion

/-- The day of 1 January 1970. -/
def epochDay : Int := 719162

def ofSeconds? (day : Int) (seconds : Int) (nano : Nat) : Option Instant :=
  let d := day + seconds / secondsPerDay
  if Date.inRange d then some ⟨d, (seconds % secondsPerDay).toNat, nano⟩ else none

/-- The instant some seconds later. Leaving a leap second forwards counts it as the second before,
leaving it backwards as the second after. -/
def addSeconds? (t : Instant) (seconds : Int) : Option Instant :=
  if seconds = 0 then some t
  else if billion ≤ t.nano then
    ofSeconds? t.day (t.second + (if seconds < 0 then 1 else 0) + seconds) (t.nano - billion)
  else ofSeconds? t.day (t.second + seconds) t.nano

/-- The instant one millisecond earlier, outside leap seconds. -/
def previousMilli? (t : Instant) : Option Instant :=
  let milli := 1000000
  if milli ≤ t.nano then some { t with nano := t.nano - milli }
  else ofSeconds? t.day (t.second - 1 : Int) (t.nano + billion - milli)

/-- The same time of day some months later. -/
def addMonths? (t : Instant) (months : Int) : Option Instant :=
  ((Date.ofNumber t.day).addMonths months).number?.map fun day => { t with day }

def startOfDay (day : Int) : Instant := ⟨day, 0, 0⟩

def ofEpochMillis? (millis : Int) : Option Instant :=
  ofSeconds? epochDay (millis / 1000) ((millis % 1000).toNat * 1000000)

def padded (width n : Nat) : List Char :=
  let ds := Decimal.digitsOf n
  List.replicate (width - ds.length) '0' ++ ds

/-- Four digits, or a sign and at least four digits outside the years 0 to 9999. -/
def yearText (year : Int) : List Char :=
  if 0 ≤ year ∧ year ≤ 9999 then padded 4 year.toNat
  else (if year < 0 then '-' else '+') :: padded 4 year.natAbs

/-- The instant in ISO 8601 with milliseconds. -/
def isoText (t : Instant) : List Char :=
  let d := Date.ofNumber t.day
  let second := t.second % 60 + t.nano / billion
  yearText d.year ++ '-' :: padded 2 d.month ++ '-' :: padded 2 d.day
    ++ 'T' :: padded 2 (t.second / 3600) ++ ':' :: padded 2 (t.second / 60 % 60)
    ++ ':' :: padded 2 second ++ '.' :: padded 3 (t.nano % billion / 1000000) ++ ['Z']

def iso (t : Instant) : String := String.ofList t.isoText

end Instant

end MapLayer
