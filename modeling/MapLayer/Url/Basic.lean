import MapLayer.Failure
import MapLayer.Keyed
import MapLayer.Text.Blank
import MapLayer.Url.Form
import MapLayer.Url.Host
import MapLayer.Url.Path

/-!
Addresses: reading them into their normal form, and the parameters in their queries.
-/

namespace MapLayer

/-- An address in normal form, in the parts that are written one after the other. -/
structure Url where
  scheme : List Char
  /-- User, host and port, if the address names a host. -/
  authority : Option (List Char)
  path : List Char
  query : Option (List Char)
  fragment : Option (List Char)
deriving DecidableEq

namespace Url

open MapLayer.Text

def defaultPort? (scheme : List Char) : Option Nat :=
  [("http", 80), ("https", 443), ("ws", 80), ("wss", 443), ("ftp", 21)].lookup (String.ofList scheme)

/-- Whether an address of this scheme always has a host. -/
def isWeb (scheme : List Char) : Bool := (defaultPort? scheme).isSome

def isFile (scheme : List Char) : Bool := scheme == ['f', 'i', 'l', 'e']

def isSlash (c : Char) : Bool := c == '/' || c == '\\'

/-- The text between the control characters and spaces at its ends, without tabs and line breaks. -/
def cleaned (s : List Char) : List Char :=
  let blank (c : Char) : Bool := c.toNat ≤ 0x20
  (trimRight blank (trimLeft blank s)).filter fun c => !(c == '\t' || c == '\n' || c == '\r')

def scheme? (s : List Char) : Option (List Char × List Char) :=
  let isSchemeChar (c : Char) : Bool := c.isAlphanum || c == '+' || c == '-' || c == '.'
  match s with
  | c :: _ =>
    if c.isAlpha then
      match s.dropWhile isSchemeChar with
      | ':' :: rest => some ((s.takeWhile isSchemeChar).map Char.toLower, rest)
      | _ => none
    else none
  | [] => none

/-- A text cut at the first of some character: what stands before it, and what stands after it if it
is there. -/
def cutAt (mark : Char) (s : List Char) : List Char × Option (List Char) :=
  match cut? [mark] s with
  | some (before, after) => (before, some after)
  | none => (s, none)

/-- A port: a number up to 65535. The usual one is left out. -/
def portText (scheme : List Char) (ds : List Char) : Except UrlFault (List Char) :=
  if !ds.all Char.isDigit then .error .invalidPort
  else
    let n := valueIn 10 ds
    if 65535 < n then .error .invalidPort
    else if ds = [] || defaultPort? scheme = some n then .ok []
    else .ok (':' :: Decimal.digitsOf n)

/-- A host and a port, cut at the first colon outside brackets. -/
def splitPort (inside : Bool) : List Char → List Char × Option (List Char)
  | [] => ([], none)
  | c :: s =>
    if c = ':' ∧ inside = false then ([], some s)
    else
      let inside := if c = '[' then true else if c = ']' then false else inside
      let (host, port) := splitPort inside s
      (c :: host, port)

def userText (s : List Char) : List Char :=
  let (name, password) := cutAt ':' s
  let password := match password with
    | none | some [] => []
    | some p => ':' :: percentEncode userMust p
  let name := percentEncode userMust name
  if name = [] && password = [] then [] else name ++ password ++ ['@']

/-- User, host and port as they are written, and what a backslash behind the port cuts off. -/
structure Authority where
  user : Option (List Char)
  host : List Char
  port : Option (List Char)
  behind : List Char

def Authority.ofText (s : List Char) : Authority :=
  let (user, rest) := match cutLast? '@' s with
    | some (user, rest) => (some user, rest)
    | none => (none, s)
  let (host, port) := splitPort false rest
  { user, host
    port := port.map (·.takeWhile (· != '\\'))
    behind := (port.getD []).dropWhile (· != '\\') }

/-- Whether a host has to be given: in web addresses, and between a user and a port. An empty user
counts if something follows. -/
def Authority.needsHost (a : Authority) (isWeb isLast : Bool) : Bool :=
  isWeb || a.port.isSome || a.user.any fun u => userText u != [] || (u.isEmpty && !isLast)

def Authority.text (a : Authority) (scheme : List Char) (isLast : Bool) :
    Except UrlFault (List Char) :=
  if a.host = [] && a.needsHost (isWeb scheme) isLast then .error .emptyHost
  else do
    let host ← if isWeb scheme then webHost a.host else opaqueHost a.host
    let port ← match a.port with
      | some ds => portText scheme ds
      | none => .ok []
    return (a.user.map userText).getD [] ++ host ++ port

def splitAuthority (special : Bool) (s : List Char) : List Char × List Char :=
  let inside (c : Char) : Bool := !(c == '/' || special && c == '\\')
  (s.takeWhile inside, s.dropWhile inside)

/-- Host and path of a web address. Any number of slashes may stand before the host. -/
def webParts (scheme s : List Char) : Except UrlFault (List Char × List Char) := do
  let (host, path) := splitAuthority true (s.dropWhile isSlash)
  return (← (Authority.ofText host).text scheme true, pathText (withSlashes path.tail))

/-- Host and path of a file address with a host. The local host has no name, and a path with a drive
has no host. -/
def hostedFile (s : List Char) : Except UrlFault (List Char × List Char) :=
  let (host, path) := splitAuthority true s
  if isDrive host then .ok ([], filePath (fileSegments s))
  else do
    let host ← if host = [] then .ok [] else webHost host
    let segments := fileSegments path.tail
    let isLocal := host = "localhost".toList || segments.head?.any isDrive
    return (if isLocal then [] else host, filePath segments)

def fileParts (s : List Char) : Except UrlFault (List Char × List Char) :=
  match s with
  | a :: b :: r =>
    if isSlash a && isSlash b then hostedFile r
    else .ok ([], filePath (fileSegments (if isSlash a then b :: r else s)))
  | [a] => .ok ([], filePath (fileSegments (if isSlash a then [] else [a])))
  | [] => .ok ([], filePath (fileSegments []))

def plainParts (scheme s : List Char) (isLast : Bool) :
    Except UrlFault (Option (List Char) × List Char) :=
  match s with
  | '/' :: '/' :: r => do
    let (host, path) := splitAuthority false r
    let a := Authority.ofText host
    let path := match a.behind ++ path with
      | [] => []
      | c :: p => pathText (if c = '/' then p else c :: p)
    return (some (← a.text scheme (isLast && path = [])), path)
  | '/' :: r =>
    let path := pathText r
    .ok (none, if (after? ['/', '/'] path).isSome then '/' :: '.' :: path else path)
  | s => .ok (none, percentEncode isControl s)

/-- Host and path of an address, which may be the last of its parts. -/
def parts (scheme s : List Char) (isLast : Bool) :
    Except UrlFault (Option (List Char) × List Char) :=
  if isWeb scheme then (fun (a, p) => (some a, p)) <$> webParts scheme s
  else if isFile scheme then (fun (a, p) => (some a, p)) <$> fileParts s
  else plainParts scheme s isLast

def parse (s : List Char) : Except UrlFault Url :=
  match scheme? (cleaned s) with
  | none => .error .relative
  | some (scheme, rest) => do
    let (rest, fragment) := cutAt '#' rest
    let (rest, query) := cutAt '?' rest
    let (authority, path) ← parts scheme rest (query.isNone && fragment.isNone)
    let special := isWeb scheme || isFile scheme
    return {
      scheme, authority, path
      query := query.map (percentEncode (queryMust special))
      fragment := fragment.map (percentEncode fragmentMust) }

/-- The text of an address up to its fragment, which is what a request asks for. -/
def target (u : Url) : List Char :=
  u.scheme ++ ':' :: ((u.authority.map fun a => '/' :: '/' :: a).getD [] ++ u.path
    ++ (u.query.map fun q => '?' :: q).getD [])

def chars (u : Url) : List Char :=
  u.target ++ (u.fragment.map fun f => '#' :: f).getD []

def text (u : Url) : String := String.ofList u.chars

/-- Whether percent escapes stand for the bytes of a text. -/
def escapesText (s : List Char) : Bool :=
  Utf8.encode (Utf8.decode (percentDecode s)) == percentDecode s

/-- User, host and port without the user, if there is a name or a password that is a text. A name that
is no text stays. -/
def withoutName (authority : List Char) : List Char :=
  match cutLast? '@' authority with
  | some (user, rest) =>
    let (name, password) := cutAt ':' user
    if escapesText name && (name != [] || password.any escapesText) then rest else authority
  | none => authority

def withoutUser (u : Url) : Url := { u with authority := u.authority.map withoutName }

def appendPairs (u : Url) (pairs : List (String × String)) : Url :=
  { u with query := some (Form.appendAll (u.query.getD []) pairs) }

def pairs (u : Url) : List (String × String) :=
  Form.pairs (u.query.getD [])

end Url

def badUrl (param text : String) (fault : UrlFault) : Failure :=
  .invalidParameter param ("'" ++ text ++ "': " ++ fault.message)

/-- The address of a service with parameters after its own. -/
def buildUrl (base : String) (params : List (String × String)) : Outcome Url :=
  match Url.parse base.toList with
  | .ok u => .ok (u.appendPairs params)
  | .error fault => .error (badUrl "baseUrl" base fault)

/-- The parameters of an address. Of several values of one parameter the last counts. -/
def queryParams (url : String) : Outcome (Keyed String) :=
  match Url.parse url.toList with
  | .ok u => .ok (.ofList u.pairs)
  | .error fault => .error (badUrl "url" url fault)

end MapLayer
