import MapLayer.Calendar.Instant
import MapLayer.Text.Blank
import MapLayer.Text.Split

/-! Reading absolute instants: RFC 3339, date and time without an offset, or a date alone. -/

namespace MapLayer.Instant

open MapLayer.Text

def valueOf (ds : List Char) : Nat :=
  ds.foldl (fun n c => n * 10 + (c.toNat - '0'.toNat)) 0

/-- The first `most` digits of a text, at least `least`, and the rest. -/
def digits? (least most : Nat) (s : List Char) : Option (Nat × List Char) :=
  let ds := (s.take most).takeWhile Char.isDigit
  if ds.length < least then none else some (valueOf ds, s.drop ds.length)

def two? (s : List Char) : Option (Nat × List Char) := digits? 2 2 s

/-- A number behind white space, of one or two digits. -/
def loose? (s : List Char) : Option (Nat × List Char) := digits? 1 2 (trimLeft isBlank s)

def mark? (c : Char) (s : List Char) : Option (List Char) := after? [c] s

/-- Nanoseconds after a point, if there is one. Digits beyond the ninth do not count. -/
def fraction? (s : List Char) : Option (Nat × List Char) :=
  match s with
  | '.' :: r =>
    let ds := r.takeWhile Char.isDigit
    if ds = [] then none
    else
      let kept := ds.take 9
      some (valueOf kept * Nat.pow 10 (9 - kept.length), r.dropWhile Char.isDigit)
  | _ => some (0, s)

/-- The distance of local time from universal time, in seconds: a zone letter, or a sign, two digits
of hours and two of minutes. -/
def offset? (s : List Char) : Option (Int × List Char) :=
  match s with
  | 'Z' :: r | 'z' :: r => some (0, r)
  | sign :: r => do
    let direction ← if sign = '+' then some 1
      else if sign = '-' ∨ sign = Char.ofNat 0x2212 then some (-1 : Int) else none
    let (hours, r) ← two? r
    let r ← mark? ':' r
    let (minutes, r) ← two? r
    if hours < 24 ∧ minutes < 60 then some (direction * (hours * 3600 + minutes * 60 : Nat), r)
    else none
  | [] => none

/-- The instant of a date and a time of day, given the offset. The sixtieth second is a leap
second. -/
def compose? (d : Date) (hour minute second nano : Nat) (offset : Int) : Option Instant := do
  let day ← d.number?
  if 23 < hour ∨ 59 < minute ∨ 60 < second then none
  else
    let (second, nano) := if second = 60 then (59, nano + billion) else (second, nano)
    ofSeconds? day ((hour * 3600 + minute * 60 + second : Nat) - offset) nano

def rfc3339? (s : List Char) : Option Instant := do
  let (year, s) ← digits? 4 4 s
  let (month, s) ← two? (← mark? '-' s)
  let (day, s) ← two? (← mark? '-' s)
  let s ← match s with
    | 'T' :: r | 't' :: r | ' ' :: r => some r
    | _ => none
  let (hour, s) ← two? s
  let (minute, s) ← two? (← mark? ':' s)
  let (second, s) ← two? (← mark? ':' s)
  let (nano, s) ← fraction? s
  let (offset, s) ← offset? s
  if s = [] then compose? ⟨year, month, day⟩ hour minute second nano offset else none

/-- A year behind white space: up to four digits, or a sign and any number of digits. -/
def year? (s : List Char) : Option (Int × List Char) :=
  match trimLeft isBlank s with
  | '-' :: r => (digits? 1 r.length r).map fun (n, r) => (-n, r)
  | '+' :: r => (digits? 1 r.length r).map fun (n, r) => ((n : Int), r)
  | s => (digits? 1 4 s).map fun (n, r) => ((n : Int), r)

def looseDate? (s : List Char) : Option (Date × List Char) := do
  let (year, s) ← year? s
  let (month, s) ← loose? (← mark? '-' s)
  let (day, s) ← loose? (← mark? '-' s)
  return (⟨year, month, day⟩, s)

def looseTime? (s : List Char) : Option ((Nat × Nat × Nat) × List Char) := do
  let (hour, s) ← loose? s
  let (minute, s) ← loose? (← mark? ':' s)
  let (second, s) ← loose? (← mark? ':' s)
  return ((hour, minute, second), s)

/-- A whole text of a date, the letter T and a time of day with or without fraction. -/
def dateAndTime? (s : List Char) : Option Instant := do
  let (date, s) ← looseDate? s
  let ((hour, minute, second), s) ← looseTime? (← mark? 'T' s)
  let (nano, s) ← fraction? s
  if s = [] then compose? date hour minute second nano 0 else none

def dateSpaceTime? (s : List Char) : Option Instant := do
  let (date, s) ← looseDate? s
  let ((hour, minute, second), s) ← looseTime? (trimLeft isBlank s)
  if s = [] then compose? date hour minute second 0 0 else none

def dateAlone? (s : List Char) : Option Instant := do
  let (date, s) ← looseDate? s
  if s = [] then date.number?.map startOfDay else none

/-- The instant of a text in the first form that it has. -/
def ofText? (s : List Char) : Option Instant :=
  rfc3339? s <|> dateAndTime? s <|> dateSpaceTime? s <|> dateAlone? s

end MapLayer.Instant
