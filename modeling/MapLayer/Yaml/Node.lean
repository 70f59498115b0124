import MapLayer.Keyed
import MapLayer.Yaml.Token

/-!
The value of a YAML document. A text holds at most one document. A name before a value gets a
number, and an alias refers to the number that its name has so far; it stands for the last value of
that number in the document.
-/

namespace MapLayer.Yaml

inductive Node
  | scalar (isPlain : Bool) (text : String)
  | sequence (items : List Node)
  | mapping (entries : List (Node × Node))
  /-- A value with the number of its name. -/
  | named (number : Nat) (value : Node)
  | reference (number : Nat)

namespace Node

/-- A value that is left out. -/
def empty : Node := .scalar true ""

mutual

/-- The value of a number that starts last. -/
def last? (number : Nat) : Node → Option Node
  | .scalar .. => none
  | .sequence items => lastOfItems? number items
  | .mapping entries => lastOfEntries? number entries
  | .named n value => (value.last? number).or (if n = number then some value else none)
  | .reference _ => none

def lastOfItems? (number : Nat) : List Node → Option Node
  | [] => none
  | n :: ns => (lastOfItems? number ns).or (n.last? number)

def lastOfEntries? (number : Nat) : List (Node × Node) → Option Node
  | [] => none
  | (key, value) :: rest =>
    (lastOfEntries? number rest).or ((value.last? number).or (key.last? number))

end

/-- A part of a document without its name, and what an alias stands for in its place. -/
def valueIn? (document : Node) : Node → Option Node
  | .named _ value => some value
  | .reference number => document.last? number
  | n => some n

end Node

structure Input where
  tokens : List Token
  names : Keyed Nat := {}
  handles : List (List Char) := [['!'], ['!', '!']]

abbrev Parse := StateT Input Option

namespace Parse

def peek : Parse (Option Token) := do return (← get).tokens.head?

def next : Parse Unit := modify fun i => { i with tokens := i.tokens.tail }

/-- Whether the next token is one of some. At the end there is none. -/
def isAt (ts : List Token) : Parse Bool := do return (← peek).any ts.contains

def expect (t : Token) : Parse Unit := do
  if (← peek) == some t then next else failure

/-- Numbers a name: it gets the number of different names before it, also when it is one of them. -/
def nameNext (name : List Char) : Parse Nat := do
  let names := (← get).names
  modify fun i => { i with names := names.put (String.ofList name) names.entries.length }
  return names.entries.length

def numberOf (name : List Char) : Parse Nat := do
  match (← get).names.get? (String.ofList name) with
  | some number => return number
  | none => failure

def checkHandle (handle : List Char) : Parse Unit := do
  if handle = [] || (← get).handles.contains handle then next else failure

def anchor? : Parse (Option (List Char)) := do
  match ← peek with
  | some (.anchor name) => next; return some name
  | _ => return none

/-- Reads a tag, if there is one, and says so. -/
def tag? : Parse Bool := do
  match ← peek with
  | some (.tag handle) => checkHandle handle; return true
  | _ => return false

/-- The name and the tag before a value, in any order. -/
def properties : Parse (Option (List Char) × Bool) := do
  match ← anchor? with
  | some name => return (some name, ← tag?)
  | none => if ← tag? then return (← anchor?, true) else return (none, false)

end Parse

open Parse

mutual

/-- A value. Block collections may stand only outside brackets, and a list without indentation only
inside a mapping. Every call takes one from `fuel`. -/
def node (fuel : Nat) (inBlock unindented : Bool) : Parse Node :=
  match fuel with
  | 0 => failure
  | fuel + 1 => do
    match ← peek with
    | some (.alias name) => next; .reference <$> numberOf name
    | _ =>
      let (name, tagged) ← properties
      match name with
      | none => content fuel inBlock unindented tagged
      | some name => do
        let number ← nameNext name
        .named number <$> content fuel inBlock unindented true

/-- A value after its name and tag, without which it cannot be empty. -/
def content (fuel : Nat) (inBlock unindented mayBeEmpty : Bool) : Parse Node :=
  match fuel with
  | 0 => failure
  | fuel + 1 => do
    match ← peek with
    | some (.scalar isPlain text) => next; return .scalar isPlain (String.ofList text)
    | some .flowSequence => next; .sequence <$> flowItems fuel true
    | some .flowMapping => next; .mapping <$> flowEntries fuel true
    | some .blockEntry =>
      if unindented then .sequence <$> unindentedItems fuel
      else if mayBeEmpty then return .empty
      else failure
    | some .blockSequence =>
      if inBlock then do next; .sequence <$> blockItems fuel
      else if mayBeEmpty then return .empty
      else failure
    | some .blockMapping =>
      if inBlock then do next; .mapping <$> blockEntries fuel
      else if mayBeEmpty then return .empty
      else failure
    | _ => if mayBeEmpty then return .empty else failure

/-- A value, or nothing before some tokens. -/
def nodeUnless (fuel : Nat) (inBlock unindented : Bool) (ends : List Token) : Parse Node :=
  match fuel with
  | 0 => failure
  | fuel + 1 => do
    if ← isAt ends then return .empty else node fuel inBlock unindented

def blockItems (fuel : Nat) : Parse (List Node) :=
  match fuel with
  | 0 => failure
  | fuel + 1 => do
    match ← peek with
    | some .blockEntry =>
      next
      let item ← nodeUnless fuel true false [.blockEntry, .blockEnd]
      return item :: (← blockItems fuel)
    | some .blockEnd => next; return []
    | _ => failure

def unindentedItems (fuel : Nat) : Parse (List Node) :=
  match fuel with
  | 0 => failure
  | fuel + 1 => do
    match ← peek with
    | some .blockEntry =>
      next
      let item ← nodeUnless fuel true false [.blockEntry, .key, .value, .blockEnd]
      return item :: (← unindentedItems fuel)
    | _ => return []

/-- What stands after a colon, or nothing without one. -/
def valueOf (fuel : Nat) (inBlock : Bool) (ends : List Token) : Parse Node :=
  match fuel with
  | 0 => failure
  | fuel + 1 => do
    if ← isAt [.value] then do
      next
      nodeUnless fuel inBlock inBlock ends
    else return .empty

def blockEntries (fuel : Nat) : Parse (List (Node × Node)) :=
  match fuel with
  | 0 => failure
  | fuel + 1 => do
    match ← peek with
    | some .key =>
      next
      let key ← nodeUnless fuel true true [.key, .value, .blockEnd]
      let value ← valueOf fuel true [.key, .value, .blockEnd]
      return (key, value) :: (← blockEntries fuel)
    | some .blockEnd => next; return []
    | _ => failure

/-- The items up to a closing bracket. A comma stands between two of them, and may stand behind the
last. A key and its value are a mapping of their own. A key that is left out takes the mark behind
it. -/
def flowItems (fuel : Nat) (isFirst : Bool) : Parse (List Node) :=
  match fuel with
  | 0 => failure
  | fuel + 1 => do
    if ← isAt [.flowSequenceEnd] then do
      next
      return []
    else do
      if !isFirst then expect .flowEntry
      match ← peek with
      | some .flowSequenceEnd => next; return []
      | some .key =>
        next
        let isLeftOut ← isAt [.value, .flowEntry, .flowSequenceEnd]
        if isLeftOut then next
        let key ← if isLeftOut then pure .empty else node fuel false false
        let value ← valueOf fuel false [.flowEntry, .flowSequenceEnd]
        return .mapping [(key, value)] :: (← flowItems fuel false)
      | _ =>
        let item ← node fuel false false
        return item :: (← flowItems fuel false)

def flowEntries (fuel : Nat) (isFirst : Bool) : Parse (List (Node × Node)) :=
  match fuel with
  | 0 => failure
  | fuel + 1 => do
    if ← isAt [.flowMappingEnd] then do
      next
      return []
    else do
      if !isFirst then expect .flowEntry
      match ← peek with
      | some .flowMappingEnd => next; return []
      | some .key =>
        next
        let key ← nodeUnless fuel false false [.value, .flowEntry, .flowMappingEnd]
        let value ← valueOf fuel false [.flowEntry, .flowMappingEnd]
        return (key, value) :: (← flowEntries fuel false)
      | _ =>
        let key ← node fuel false false
        return (key, .empty) :: (← flowEntries fuel false)

end

/-- The directives before a document. Each may be given once, and only version 1 is understood. -/
def directives (fuel : Nat) (hasVersion : Bool) (handles : List (List Char)) : Parse Unit :=
  match fuel with
  | 0 => failure
  | fuel + 1 => do
    match ← peek with
    | some (.version major minor) =>
      if hasVersion || major ≠ 1 || !(minor == 1 || minor == 2) then failure
      else do next; directives fuel true handles
    | some (.tagHandle handle) =>
      if handles.contains handle then failure
      else do next; directives fuel hasVersion (handle :: handles)
    | some .documentStart =>
      next
      modify fun i => { i with handles := i.handles ++ handles }
    | _ => failure

def isDirective : Token → Bool
  | .version .. | .tagHandle _ => true
  | _ => false

def document (fuel : Nat) : Parse (Option Node) := do
  match ← peek with
  | none => return none
  | some t =>
    let isMarked := t == .documentStart || isDirective t
    if isMarked then directives fuel false []
    let n ← match ← peek with
      | none => pure Node.empty
      | some t =>
        if isMarked && (isDirective t || t == .documentStart || t == .documentEnd) then
          pure Node.empty
        else node fuel true false
    let rest := (← get).tokens.dropWhile (· == .documentEnd)
    if rest = [] then return some n else failure

/-- The value of a text. The first answer is missing when the text is malformed, the second when it
holds no document. -/
def parse? (text : String) : Option (Option Node) := do
  let ts ← tokens text
  (·.1) <$> (document (8 * ts.length + 8)).run { tokens := ts }

end MapLayer.Yaml
