import MapLayer.Decimal.Layout
import MapLayer.Text.Split
import MapLayer.Url.Domain
import MapLayer.Url.Percent

/-! The hosts of addresses: names, and numbers of four or sixteen bytes. -/

namespace MapLayer

inductive UrlFault
  | relative
  | emptyHost
  | invalidPort
  | invalidIpv4
  | invalidIpv6
  | invalidDomain
  | invalidDomainCharacter
deriving DecidableEq, Repr

def UrlFault.message : UrlFault → String
  | relative => "relative URL without a base"
  | emptyHost => "empty host"
  | invalidPort => "invalid port number"
  | invalidIpv4 => "invalid IPv4 address"
  | invalidIpv6 => "invalid IPv6 address"
  | invalidDomain => "invalid international domain name"
  | invalidDomainCharacter => "invalid domain character"

namespace Url

open MapLayer.Text

def valueIn (base : Nat) (ds : List Char) : Nat :=
  ds.foldl (fun n c => n * base + (hexValue? c).getD 0) 0

/-- A number of an IPv4 address: decimal, octal after a zero, hexadecimal after `0x`. -/
def ipv4Number? (s : List Char) : Option Nat :=
  let (base, ds) := match s with
    | '0' :: 'x' :: r | '0' :: 'X' :: r => (16, r)
    | '0' :: c :: r => (8, c :: r)
    | r => (10, r)
  if s = [] then none
  else if ds.all fun c => (hexValue? c).any (· < base) then some (valueIn base ds) else none

/-- Whether the last label of a name, before a final dot, is a number. -/
def endsInNumber (name : List Char) : Bool :=
  let labels := (pieces '.' name).reverse
  let last := match labels with
    | [] :: l :: _ => l
    | l :: _ => l
    | [] => []
  last ≠ [] && (last.all Char.isDigit || (ipv4Number? last).isSome)

/-- The four bytes of an address. Its last number fills the bytes that the others leave. -/
def ipv4Value? (name : List Char) : Option Nat :=
  let labels := pieces '.' name
  let labels := if labels.getLast? = some [] then labels.dropLast else labels
  match labels.mapM ipv4Number? with
  | none => none
  | some numbers =>
    let front := numbers.dropLast
    let last := numbers.getLast?.getD 0
    let free := Nat.pow 256 (4 - front.length)
    if 4 < numbers.length || front.any (255 < ·) || free ≤ last then none
    else some (front.foldl (fun n part => n * 256 + part) 0 * free + last)

def ipv4Text (n : Nat) : List Char :=
  join ['.'] ([n / 0x1000000, n / 0x10000 % 256, n / 256 % 256, n % 256].map Decimal.digitsOf)

/-- A group of sixteen bits: one to four hexadecimal digits. -/
def ipv6Group? (s : List Char) : Option Nat :=
  if s ≠ [] && s.length ≤ 4 && s.all fun c => (hexValue? c).isSome then some (valueIn 16 s)
  else none

def ipv6Tail? (s : List Char) : Option (List Nat) := do
  let numbers ← (pieces '.' s).mapM fun ds =>
    if ds ≠ [] && ds.length ≤ 3 && ds.all Char.isDigit && (ds.length = 1 || ds.head? ≠ some '0')
      && valueIn 10 ds ≤ 255 then some (valueIn 10 ds) else none
  match numbers with
  | [a, b, c, d] => some [a * 256 + b, c * 256 + d]
  | _ => none

/-- The groups between colons. The last may be an IPv4 address. -/
def ipv6Groups? (s : List Char) : Option (List Nat) :=
  if s = [] then some []
  else
    let groups := pieces ':' s
    let last := groups.getLast?.getD []
    if last.contains '.' then do
      return (← groups.dropLast.mapM ipv6Group?) ++ (← ipv6Tail? last)
    else groups.mapM ipv6Group?

/-- The eight groups of an address. Two colons stand for the groups of zeros that are missing. -/
def ipv6Value? (s : List Char) : Option (List Nat) :=
  match cut? [':', ':'] s with
  | none => do
    let groups ← ipv6Groups? s
    if groups.length = 8 then some groups else none
  | some (front, back) => do
    let a ← ipv6Groups? front
    let b ← ipv6Groups? back
    if front.contains '.' || 7 < a.length + b.length then none
    else some (a ++ List.replicate (8 - (a.length + b.length)) 0 ++ b)

def zeros (groups : List Nat) : Nat := (groups.takeWhile (· == 0)).length

/-- The place and the length of the first longest run of two zeros or more. -/
def longestZeros (groups : List Nat) : Nat × Nat :=
  (List.range 8).foldl (fun (place, length) i =>
    let n := zeros (groups.drop i)
    if length < n && 2 ≤ n then (i, n) else (place, length)) (0, 0)

def groupText (n : Nat) : List Char := Nat.toDigits 16 n

def ipv6Text (groups : List Nat) : List Char :=
  let text (gs : List Nat) := join [':'] (gs.map groupText)
  let (place, length) := longestZeros groups
  if length = 0 then '[' :: (text groups ++ [']'])
  else '[' :: (text (groups.take place) ++ ':' :: ':' :: (text (groups.drop (place + length)) ++ [']']))

def bracketed? : List Char → Option (List Char)
  | '[' :: s => some s
  | _ => none

def ipv6Host (s : List Char) : Except UrlFault (List Char) :=
  match if s.getLast? = some ']' then ipv6Value? s.dropLast else none with
  | some groups => .ok (ipv6Text groups)
  | none => .error .invalidIpv6

def webHost (s : List Char) : Except UrlFault (List Char) :=
  match bracketed? s with
  | some r => ipv6Host r
  | none => match Domain.asciiName? (Utf8.decode (percentDecode s)) with
    | none => .error .invalidDomain
    | some [] => .error .emptyHost
    | some name =>
      if endsInNumber name then
        match ipv4Value? name with
        | some n => .ok (ipv4Text n)
        | none => .error .invalidIpv4
      else .ok name

def opaqueHost (s : List Char) : Except UrlFault (List Char) :=
  match bracketed? s with
  | some r => ipv6Host r
  | none =>
    if s.any fun c => Domain.isForbidden c && c != '%' && (c.toNat == 0 || 0x20 ≤ c.toNat) && c.toNat != 0x7F
    then .error .invalidDomainCharacter
    else .ok (percentEncode isControl s)

end Url

end MapLayer
