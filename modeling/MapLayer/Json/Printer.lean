import MapLayer.Decimal.Layout
import MapLayer.Json.Basic

/-! Writing JSON, on one line or with indentation. -/

namespace MapLayer.Json

def escape (c : Char) : List Char :=
  match c with
  | '"' => ['\\', '"']
  | '\\' => ['\\', '\\']
  | '\n' => ['\\', 'n']
  | '\r' => ['\\', 'r']
  | '\t' => ['\\', 't']
  | '\x08' => ['\\', 'b']
  | '\x0c' => ['\\', 'f']
  | c =>
    if c.toNat < 0x20 then
      ['\\', 'u', '0', '0', Nat.digitChar (c.toNat / 16), Nat.digitChar (c.toNat % 16)]
    else [c]

def quote (s : String) : List Char :=
  '"' :: (s.toList.flatMap escape ++ ['"'])

/-- A number with a finite value; the others have no JSON form and are written as null. -/
def numberText (x : Float) : List Char :=
  if x.isFinite then Decimal.Layout.json.text x else ['n', 'u', 'l', 'l']

mutual

/-- The value without any white space. -/
def compact : Json → List Char
  | .null => ['n', 'u', 'l', 'l']
  | .bool true => ['t', 'r', 'u', 'e']
  | .bool false => ['f', 'a', 'l', 's', 'e']
  | .int n => Decimal.integer n
  | .float x => numberText x
  | .string s => quote s
  | .array items => '[' :: compactItems items
  | .object members => '{' :: compactMembers members

def compactItems : List Json → List Char
  | [] => [']']
  | [v] => compact v ++ [']']
  | v :: w :: vs => compact v ++ ',' :: compactItems (w :: vs)

def compactMembers : List (String × Json) → List Char
  | [] => ['}']
  | [(k, v)] => quote k ++ ':' :: (compact v ++ ['}'])
  | (k, v) :: m :: ms => quote k ++ ':' :: (compact v ++ ',' :: compactMembers (m :: ms))

end

def newline (depth : Nat) : List Char :=
  '\n' :: List.replicate (2 * depth) ' '

mutual

/-- The value with each item and member on a line of its own, two spaces deeper than its parent. -/
def indented (depth : Nat) : Json → List Char
  | .null => ['n', 'u', 'l', 'l']
  | .bool true => ['t', 'r', 'u', 'e']
  | .bool false => ['f', 'a', 'l', 's', 'e']
  | .int n => Decimal.integer n
  | .float x => numberText x
  | .string s => quote s
  | .array [] => ['[', ']']
  | .array (v :: vs) =>
    '[' :: (newline (depth + 1) ++ indented (depth + 1) v ++ indentedItems depth vs)
  | .object [] => ['{', '}']
  | .object ((k, v) :: ms) =>
    '{' :: (newline (depth + 1) ++ quote k ++ ':' :: ' ' :: indented (depth + 1) v
      ++ indentedMembers depth ms)

def indentedItems (depth : Nat) : List Json → List Char
  | [] => newline depth ++ [']']
  | v :: vs => ',' :: (newline (depth + 1) ++ indented (depth + 1) v ++ indentedItems depth vs)

def indentedMembers (depth : Nat) : List (String × Json) → List Char
  | [] => newline depth ++ ['}']
  | (k, v) :: ms =>
    ',' :: (newline (depth + 1) ++ quote k ++ ':' :: ' ' :: indented (depth + 1) v
      ++ indentedMembers depth ms)

end

def text (v : Json) : String := String.ofList (compact v)

def pretty (v : Json) : String := String.ofList (indented 0 v)

end MapLayer.Json
