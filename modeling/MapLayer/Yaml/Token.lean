import MapLayer.Yaml.Scalar

/-!
The tokens of a YAML document. A block collection is opened where a line is indented further than
before, and closed where one is indented less. A key is known only by the colon behind it, so the
place of a possible key is kept until then.
-/

namespace MapLayer.Yaml

open MapLayer.Text

inductive Token
  | version (major minor : Nat)
  | tagHandle (handle : List Char)
  | documentStart
  | documentEnd
  | blockSequence
  | blockMapping
  | blockEnd
  | flowSequence
  | flowSequenceEnd
  | flowMapping
  | flowMappingEnd
  | blockEntry
  | flowEntry
  | key
  | value
  | alias (name : List Char)
  | anchor (name : List Char)
  | tag (handle : List Char)
  | scalar (isPlain : Bool) (text : List Char)
deriving DecidableEq

/-- How far into a document a token stands. The offset counts bytes. -/
structure Position where
  line : Nat := 0
  column : Nat := 0
  offset : Nat := 0

def Position.after (p : Position) : List Char → Position
  | [] => p
  | c :: s =>
    ({ line := if isBreak c then p.line + 1 else p.line
       column := if isBreak c then 0 else p.column + 1
       offset := p.offset + c.utf8Size } : Position).after s

/-- The place of a possible key: the tokens before it, its position, and whether nothing but a key
may stand there. -/
structure KeyPlace where
  before : Nat
  position : Position
  isRequired : Bool

structure Scan where
  tokens : Array Token := #[]
  /-- The columns of the open block collections, the innermost first. -/
  indents : List Nat := []
  place : Option KeyPlace := none
  /-- The possible keys outside each open bracket, the innermost first. -/
  outer : List (Option KeyPlace) := []
  keyAllowed : Bool := true

namespace Scan

def inFlow (s : Scan) : Bool := !s.outer.isEmpty

/-- The least column of what belongs to the innermost block collection. -/
def indent (s : Scan) : Nat :=
  match s.indents with
  | [] => 0
  | column :: _ => column + 1

def push (s : Scan) (t : Token) : Scan := { s with tokens := s.tokens.push t }

/-- Closes the block collections that are indented further than a column. -/
def closeTo (column : Nat) (tokens : Array Token) : List Nat → Array Token × List Nat
  | [] => (tokens, [])
  | i :: is => if column < i then closeTo column (tokens.push .blockEnd) is else (tokens, i :: is)

def unroll (s : Scan) (column : Nat) : Scan :=
  if s.inFlow then s
  else
    let (tokens, indents) := closeTo column s.tokens s.indents
    { s with tokens, indents }

def unrollAll (s : Scan) : Scan :=
  if s.inFlow then s
  else { s with tokens := s.tokens ++ (s.indents.map fun _ => Token.blockEnd).toArray, indents := [] }

/-- Opens a block collection, if a column lies further in, by a token put at some place. -/
def roll (s : Scan) (column before : Nat) (t : Token) : Scan :=
  if s.inFlow || column < s.indent then s
  else { s with
    indents := column :: s.indents
    tokens := s.tokens.insertIdxIfInBounds before t }

/-- Gives up the possible key, unless there has to be one. -/
def dropKey (s : Scan) : Option Scan :=
  if s.place.any (·.isRequired) then none else some { s with place := none }

/-- A key may be up to 1024 bytes long, and on one line. -/
def isStale (p : Position) (place : KeyPlace) : Bool :=
  place.position.line < p.line || place.position.offset + 1024 < p.offset

/-- Gives up a key that is too far back, unless there has to be one. -/
def refresh (p : Position) : Option KeyPlace → Option (Option KeyPlace)
  | none => some none
  | some place =>
    if !isStale p place then some (some place)
    else if place.isRequired then none
    else some none

def refreshAll (s : Scan) (p : Position) : Option Scan := do
  return { s with place := ← refresh p s.place, outer := ← s.outer.mapM (refresh p) }

/-- What follows may be a key. -/
def saveKey (s : Scan) (p : Position) : Option Scan :=
  if !s.keyAllowed then some s
  else do
    let isRequired := !s.inFlow && s.indents.head? == some p.column
    return { ← s.dropKey with place := some ⟨s.tokens.size, p, isRequired⟩ }

/-- A token that may start a key, and no key right behind it. -/
def node (s : Scan) (p : Position) (t : Token) : Option Scan := do
  return { (← s.saveKey p).push t with keyAllowed := false }

def openFlow (s : Scan) (p : Position) (t : Token) : Option Scan := do
  let s ← s.saveKey p
  return { s.push t with place := none, outer := s.place :: s.outer, keyAllowed := true }

def closeFlow (s : Scan) (t : Token) : Option Scan := do
  let s ← s.dropKey
  let s := match s.outer with
    | place :: outer => { s with place, outer }
    | [] => s
  return { s.push t with keyAllowed := false }

def flowEntry (s : Scan) : Option Scan := do
  return { (← s.dropKey).push .flowEntry with keyAllowed := true }

/-- A dash or a question mark, which open a collection. -/
def blockMark (s : Scan) (p : Position) (collection mark : Token) (keyAfter : Bool) :
    Option Scan :=
  if !s.inFlow && !s.keyAllowed then none
  else do
    let s ← (s.roll p.column s.tokens.size collection).dropKey
    return { s.push mark with keyAllowed := keyAfter }

/-- A colon, behind the possible key or without one. -/
def valueMark (s : Scan) (p : Position) : Option Scan :=
  match s.place with
  | some place =>
    let s := { s with tokens := s.tokens.insertIdxIfInBounds place.before .key }
    let s := s.roll place.position.column place.before .blockMapping
    some { s.push .value with place := none, keyAllowed := false }
  | none =>
    if !s.inFlow && !s.keyAllowed then none
    else
      let s := s.roll p.column s.tokens.size .blockMapping
      some { s.push .value with keyAllowed := !s.inFlow }

def documentMark (s : Scan) (t : Token) : Option Scan := do
  return { (← s.unrollAll.dropKey).push t with keyAllowed := false }

end Scan

def isNameChar (c : Char) : Bool := c.isAlphanum || c == '_' || c == '-'

def name? (s : List Char) : Option (List Char × List Char) :=
  let name := s.takeWhile isNameChar
  let rest := s.dropWhile isNameChar
  let closes := rest.head?.all fun c =>
    isSpace c || ['?', ':', ',', ']', '}', '%', '@', Char.ofNat 0x60].contains c
  if name = [] || !closes then none else some (name, rest)

/-- Whether a character may stand in a tag. Brackets and commas belong to a tag only between its own
brackets. -/
def isTagChar (isVerbatim : Bool) (c : Char) : Bool :=
  isNameChar c || ";/?:@&=+$.%!~*'()".toList.contains c
    || (isVerbatim && [',', '[', ']'].contains c)

/-- How many bytes a character has whose first byte is this one. -/
def widthOf? (byte : Nat) : Option Nat :=
  if byte < 0x80 then some 1
  else if byte < 0xC0 then none
  else if byte < 0xE0 then some 2
  else if byte < 0xF0 then some 3
  else if byte < 0xF8 then some 4
  else none

/-- Whether the percent signs of a tag write whole characters, each byte as two hexadecimal digits.
Of the character being read `toCome` bytes are missing. -/
def escapesWhole (toCome : Nat) : List Char → Bool
  | [] => toCome = 0
  | '%' :: a :: b :: s =>
    match hexDigit? a, hexDigit? b with
    | some x, some y =>
      let byte := 16 * x + y
      match toCome, widthOf? byte with
      | 0, some width => escapesWhole (width - 1) s
      | 0, none => false
      | n + 1, _ => 0x80 ≤ byte && byte < 0xC0 && escapesWhole n s
    | _, _ => false
  | '%' :: _ => false
  | _ :: s => toCome = 0 && escapesWhole 0 s

/-- The handle of a tag, given what stands after its mark, and what follows the tag. -/
def tag? (inFlow : Bool) (s : List Char) : Option (List Char × List Char) := do
  let (handle, rest) ← (match s with
    | '<' :: r =>
      let uri := r.takeWhile (isTagChar true)
      match r.dropWhile (isTagChar true) with
      | '>' :: rest => if uri = [] || !escapesWhole 0 uri then none else some ([], rest)
      | _ => none
    | s =>
      let word := s.takeWhile isNameChar
      match s.dropWhile isNameChar with
      | '!' :: r =>
        let suffix := r.takeWhile (isTagChar false)
        if suffix = [] || !escapesWhole 0 suffix then none
        else some ('!' :: word ++ ['!'], r.dropWhile (isTagChar false))
      | _ =>
        if escapesWhole 0 (s.takeWhile (isTagChar false)) then
          some (['!'], s.dropWhile (isTagChar false))
        else none)
  if atEnd rest || (inFlow && rest.head? == some ',') then some (handle, rest) else none

def lineEnd? (s : List Char) : Option (List Char) :=
  let r := s.dropWhile fun c => c == ' ' || c == '\t'
  let r := if r.head? == some '#' then r.dropWhile (!isBreak ·) else r
  if r.head?.all isBreak then some r else none

def versionNumber? (s : List Char) : Option (Nat × List Char) :=
  let ds := s.takeWhile Char.isDigit
  if ds = [] || 9 < ds.length then none
  else some (ds.foldl (fun n c => n * 10 + (c.toNat - 0x30)) 0, s.dropWhile Char.isDigit)

def version? (s : List Char) : Option (Token × List Char) := do
  let (major, r) ← versionNumber? s
  match r with
  | '.' :: r =>
    let (minor, r) ← versionNumber? r
    return (.version major minor, r)
  | _ => none

/-- A handle and the start of the tags that it stands for, and what follows them. -/
def tagHandle? (s : List Char) : Option (Token × List Char) :=
  let handle := s.takeWhile (!isSpace ·)
  let isHandle := handle == ['!'] || (handle.length ≠ 1 && handle.head? == some '!'
    && handle.getLast? == some '!' && handle.tail.dropLast.all isNameChar)
  let r := s.dropWhile (!isSpace ·)
  let start := r.dropWhile fun c => c == ' ' || c == '\t'
  let uri := start.takeWhile (isTagChar true)
  let rest := start.dropWhile (isTagChar true)
  if isHandle && (r.head?.any fun c => c == ' ' || c == '\t') && uri ≠ [] && escapesWhole 0 uri
      && atEnd rest then
    some (.tagHandle handle, rest)
  else none

/-- A directive, given what stands after its mark, and what follows its line. -/
def directive? (s : List Char) : Option (Token × List Char) :=
  let name := String.ofList (s.takeWhile isNameChar)
  let r := s.dropWhile isNameChar
  let arguments := r.dropWhile fun c => c == ' ' || c == '\t'
  if !atEnd r then none
  else do
    let (t, rest) ←
      if name = "YAML" then version? arguments
      else if name = "TAG" then tagHandle? arguments
      else none
    return (t, ← lineEnd? rest)

/-- The byte order mark, which may stand at the start of a line. -/
def byteOrderMark : Char := Char.ofNat 0xFEFF

/-- The text at the next token, and whether a key may start there. -/
def toToken (inFlow : Bool) (lineStart allowed comment : Bool) : List Char → Bool × List Char
  | [] => (allowed, [])
  | c :: s =>
    if isBreak c then toToken inFlow true (allowed || !inFlow) false s
    else if comment then toToken inFlow false allowed true s
    else if c == ' ' || (c == '\t' && (inFlow || !allowed)) then
      toToken inFlow false allowed false s
    else if c == '#' then toToken inFlow false allowed true s
    else if lineStart && c == byteOrderMark then toToken inFlow false allowed false s
    else (allowed, c :: s)

def startsPlain (inFlow : Bool) (c : Char) (s : List Char) : Bool :=
  let marks := "-?:,[]{}#&*!|>'\"%@".toList
  !(isSpace c || marks.contains c || c == Char.ofNat 0x60)
    || (c == '-' && !(s.head?.any fun d => d == ' ' || d == '\t'))
    || (!inFlow && (c == '?' || c == ':') && !atEnd s)

def readToken (s : Scan) (p : Position) (c : Char) (r : List Char) :
    Option (Scan × List Char) :=
  if p.column = 0 && c == '%' then do
    let s ← s.unrollAll.dropKey
    let (t, rest) ← directive? r
    return ({ s.push t with keyAllowed := false }, rest)
  else if p.column = 0 && startsMark (c :: r) then
    (s.documentMark (if c == '-' then .documentStart else .documentEnd)).map (·, r.drop 2)
  else
    let one (x : Option Scan) : Option (Scan × List Char) := x.map (·, r)
    let scalar (x : Option (List Char × List Char)) : Option (Scan × List Char) := do
      let (text, rest) ← x
      return (← s.node p (.scalar false text), rest)
    match c with
    | '[' => one (s.openFlow p .flowSequence)
    | '{' => one (s.openFlow p .flowMapping)
    | ']' => one (s.closeFlow .flowSequenceEnd)
    | '}' => one (s.closeFlow .flowMappingEnd)
    | ',' => one s.flowEntry
    | '\'' => scalar (quoted false r)
    | '"' => scalar (quoted true r)
    | '*' => do
      let (name, rest) ← name? r
      return (← s.node p (.alias name), rest)
    | '&' => do
      let (name, rest) ← name? r
      return (← s.node p (.anchor name), rest)
    | '!' => do
      let (handle, rest) ← tag? s.inFlow r
      return (← s.node p (.tag handle), rest)
    | _ =>
      if c == '-' && atEnd r then one (s.blockMark p .blockSequence .blockEntry true)
      else if c == '?' && (s.inFlow || atEnd r) then
        one (s.blockMark p .blockMapping .key (!s.inFlow))
      else if c == ':' && (s.inFlow || atEnd r) then one (s.valueMark p)
      else if (c == '|' || c == '>') && !s.inFlow then do
        let s ← s.dropKey
        let (text, rest) ← block (c == '>') s.indent r
        return ({ s.push (.scalar false text) with keyAllowed := true }, rest)
      else if startsPlain s.inFlow c r then do
        let x ← plain s.inFlow s.indent (c :: r)
        let next ← s.node p (.scalar true x.text)
        return ({ next with keyAllowed := x.endsLine }, x.rest)
      else none

def tokensFrom (s : Scan) (p : Position) (text : List Char) : Option (Array Token) :=
  let (keyAllowed, rest) := toToken s.inFlow (p.column == 0) s.keyAllowed false text
  let p := p.after (text.take (text.length - rest.length))
  match ({ s with keyAllowed } : Scan).refreshAll p with
  | none => none
  | some s =>
    match rest with
    | [] => s.unrollAll.dropKey.map (·.tokens)
    | c :: r =>
      match readToken (s.unroll p.column) p c r with
      | none => none
      | some (s, next) =>
        if next.length < text.length then
          tokensFrom s (p.after (rest.take (rest.length - next.length))) next
        else none
termination_by text.length

def isPrintable (c : Char) : Bool :=
  let n := c.toNat
  n == 9 || n == 10 || n == 13 || (0x20 ≤ n && n ≤ 0x7E) || n == 0x85
    || (0xA0 ≤ n && n ≠ 0xFFFE && n ≠ 0xFFFF)

/-- The text with a line feed for every other spelling of a line's end. -/
def withLineFeeds : List Char → List Char
  | [] => []
  | '\r' :: '\n' :: s => '\n' :: withLineFeeds s
  | c :: s => (if c == '\r' || c == Char.ofNat 0x85 then '\n' else c) :: withLineFeeds s

def tokens (text : String) : Option (List Token) :=
  if !text.toList.all isPrintable then none
  else (tokensFrom {} {} (withLineFeeds text.toList)).map Array.toList

end MapLayer.Yaml
