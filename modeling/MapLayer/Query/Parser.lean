import MapLayer.Query.Clause
import MapLayer.Text.Letter
import MapLayer.Text.Split

/-!
Reading query texts. A query combines tests of fields; a test compares a field with one value, or
matches it against a combination of values in parentheses.
-/

namespace MapLayer.Query

open MapLayer.Text

inductive Term
  | quoted (text : String)
  | bare (text : String)

inductive RangeOperator
  | less
  | lessOrEqual
  | greater
  | greaterOrEqual
deriving DecidableEq, Repr

def RangeOperator.name : RangeOperator → String
  | less => "lt"
  | lessOrEqual => "lte"
  | greater => "gt"
  | greaterOrEqual => "gte"

inductive FieldTest
  | range (field : String) (operator : RangeOperator) (value : Term)
  | values (field : String) (values : Clause Term)

def isFieldChar (c : Char) : Bool :=
  isAlphanumeric c || c == '_' || c == '.' || c == '-' || c == '@'

def isBareChar (c : Char) : Bool :=
  !(isBlank c || c == '(' || c == ')' || c == '"' || c == '<' || c == '>')

/-- The longest front of a text whose characters pass `p`, at least one. -/
def spanReader (p : Char → Bool) : Reader String
  | [] => none
  | c :: s =>
    if p c then
      some ⟨String.ofList (c :: s.takeWhile p), s.dropWhile p,
        Nat.lt_succ_of_le (length_dropWhile_le p s)⟩
    else none

/-- The characters up to the closing quote. A backslash stands before a quote or a backslash. -/
def quotedText? : List Char → Option (List Char × List Char)
  | '"' :: r => some ([], r)
  | '\\' :: c :: r =>
    if c == '\\' || c == '"' then (quotedText? r).map fun (cs, rest) => (c :: cs, rest) else none
  | c :: r => if c == '\\' then none else (quotedText? r).map fun (cs, rest) => (c :: cs, rest)
  | [] => none

theorem length_quotedText? {s cs r : List Char} (h : quotedText? s = some (cs, r)) :
    r.length < s.length := by
  fun_induction quotedText? s generalizing cs r with
  | case1 => obtain ⟨-, rfl⟩ := Prod.mk.inj (Option.some.inj h); simp
  | case2 c t _ ih =>
    obtain ⟨⟨_, _⟩, hr, eq⟩ := Option.map_eq_some_iff.1 h
    obtain ⟨-, rfl⟩ := Prod.mk.inj eq
    have := ih hr
    simp only [List.length_cons]
    omega
  | case3 => contradiction
  | case4 => contradiction
  | case5 c t _ _ _ ih =>
    obtain ⟨⟨_, _⟩, hr, eq⟩ := Option.map_eq_some_iff.1 h
    obtain ⟨-, rfl⟩ := Prod.mk.inj eq
    have := ih hr
    simp only [List.length_cons]
    omega
  | case6 => contradiction

def quotedReader : Reader Term
  | '"' :: s => match h : quotedText? s with
    | none => none
    | some (cs, r) => some ⟨.quoted (String.ofList cs), r, Nat.lt_succ_of_lt (length_quotedText? h)⟩
  | _ => none

def termReader : Reader Term := fun s =>
  match quotedReader s with
  | some t => some t
  | none => (spanReader isBareChar s).map fun t => t.as (.bare t.value)

def operatorReader : Reader RangeOperator
  | '<' :: '=' :: r => some ⟨.lessOrEqual, r, Nat.lt_succ_of_lt (shorter_tail r)⟩
  | '>' :: '=' :: r => some ⟨.greaterOrEqual, r, Nat.lt_succ_of_lt (shorter_tail r)⟩
  | '<' :: r => some ⟨.less, r, shorter_tail r⟩
  | '>' :: r => some ⟨.greater, r, shorter_tail r⟩
  | _ => none

/-- One value, or a combination of values in parentheses. -/
def valuesReader : Reader (Clause Term) := fun s =>
  match Clause.readGroup termReader s with
  | some c => some c
  | none => (termReader s).map fun t => t.as (.atom t.value)

def rangeReader (field : String) : Reader FieldTest := fun s =>
  match operatorReader s with
  | none => none
  | some sign => (termReader (Clause.skip sign.rest)).map fun t =>
      (t.as (.range field sign.value t.value)).from'
        (Nat.le_trans (Clause.length_skip_le _) (Nat.le_of_lt sign.shorter))

def matchReader (field : String) : Reader FieldTest
  | ':' :: s => (valuesReader (Clause.skip s)).map fun c =>
      (c.as (.values field c.value)).from' (Nat.le_succ_of_le (Clause.length_skip_le s))
  | _ => none

def fieldReader : Reader FieldTest := fun s =>
  match spanReader isFieldChar s with
  | none => none
  | some field =>
    have start := Clause.length_skip_le field.rest
    have shorter := field.shorter
    match rangeReader field.value (Clause.skip field.rest) with
    | some t => some (t.from' (by omega))
    | none => (matchReader field.value (Clause.skip field.rest)).map fun t => t.from' (by omega)

/-- The leaf of a value. A bare value with a star is a wildcard. -/
def Term.node : Term → QueryNode
  | quoted text => .literal text
  | bare text =>
    if '*' ∈ text.toList then
      .wildcard (String.ofList (replace ['*'] QueryNode.anyMark.toList text.toList))
    else .literal text

def Term.text : Term → String
  | quoted text | bare text => text

/-- The test of a field for a value. A lone star asks only for the field to be there. -/
def Term.test (field : String) : Term → QueryNode
  | bare "*" => .function "exists" [.literal field]
  | t => .function "is" [.literal field, t.node]

def FieldTest.node : FieldTest → QueryNode
  | range field operator value =>
    .function "range" [.literal field, .literal operator.name, .literal value.text]
  | values field c => c.node (Term.test field)

def read? (s : List Char) : Option QueryNode :=
  match Clause.readOr fieldReader (Clause.skip s) with
  | some c => if Clause.skip c.rest = [] then some (c.value.node FieldTest.node) else none
  | none => none

/-- The expression of a query text. A text of white space has none. Where a text cannot be read, the message
goes on with what was met there, which is left out. -/
def parse (text : String) : Outcome (Option QueryNode) :=
  if trim text.toList = [] then .ok none
  else match read? text.toList with
    | some node => .ok (some node)
    | none => .error (.badQuery ("'" ++ text ++ "'"))

end MapLayer.Query
