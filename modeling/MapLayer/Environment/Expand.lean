import MapLayer.Text.Blank
import MapLayer.Text.Split

/-!
References to variables inside a text. A reference may give the text that stands in for a variable
that is empty or not set.
-/

namespace MapLayer

/-- The settings that a program runs with, in order. Each is the name of a variable, an equals sign
and a value. -/
structure Environment where
  settings : List (List Char) := []

namespace Environment

open MapLayer.Text

def setting (name value : String) : List Char := name.toList ++ '=' :: value.toList

def ofList (entries : List (String × String)) : Environment :=
  ⟨entries.map fun (name, value) => setting name value⟩

/-- The value of a variable: what follows its name and an equals sign in the first setting that
starts so. -/
def get? (env : Environment) (name : String) : Option String :=
  if name = "" then none
  else (env.settings.findSome? (after? (name.toList ++ ['=']))).map String.ofList

def add (env : Environment) (name value : String) : Environment :=
  ⟨env.settings ++ [setting name value]⟩

inductive Fault
  | unclosed (rest : List Char)
  | unset (name : List Char)
deriving DecidableEq

def Fault.message : Fault → String
  | unclosed rest => "Unclosed variable substitution: $\x7b" ++ String.ofList rest
  | unset name => s!"Environment variable {String.ofList name} not set"

/-- The text up to the brace that closes a reference in which some braces are open, and the text
after it. -/
def body? (depth : Nat) : List Char → Option (List Char × List Char)
  | [] => none
  | c :: s =>
    if c = '\x7d' then
      match depth with
      | 0 => some ([], s)
      | d + 1 => (body? d s).map fun (body, rest) => (c :: body, rest)
    else
      (body? (if c = '\x7b' then depth + 1 else depth) s).map fun (body, rest) => (c :: body, rest)

theorem length_body? {depth : Nat} {s body rest : List Char}
    (h : body? depth s = some (body, rest)) : rest.length < s.length := by
  induction s generalizing depth body with
  | nil => simp [body?] at h
  | cons c s ih =>
    unfold body? at h
    split at h
    · split at h
      · obtain ⟨-, rfl⟩ := Prod.mk.inj (Option.some.inj h)
        exact Nat.lt_succ_self _
      · obtain ⟨⟨_, _⟩, e, eq⟩ := Option.map_eq_some_iff.1 h
        obtain ⟨-, rfl⟩ := Prod.mk.inj eq
        exact Nat.lt_succ_of_lt (ih e)
    · obtain ⟨⟨_, _⟩, e, eq⟩ := Option.map_eq_some_iff.1 h
      obtain ⟨-, rfl⟩ := Prod.mk.inj eq
      exact Nat.lt_succ_of_lt (ih e)

/-- The value of the variable with a name, which white space may surround. -/
def valueAt? (env : Environment) (name : List Char) : Option (List Char) :=
  (env.get? (String.ofList (trim name))).map String.toList

def reference (env : Environment) (body : List Char) : Except Fault (List Char) :=
  match cut? [':', '-'] body with
  | some (name, fallback) => .ok (((env.valueAt? name).filter (· ≠ [])).getD fallback)
  | none => match env.valueAt? body with
    | some value => .ok value
    | none => .error (.unset body)

/-- A text with its references replaced. -/
def expand (env : Environment) (s : List Char) : Except Fault (List Char) :=
  match s with
  | [] => .ok []
  | '$' :: '\x7b' :: r => match _h : body? 0 r with
    | none => .error (.unclosed r)
    | some (body, rest) => do
      let value ← env.reference body
      return value ++ (← expand env rest)
  | c :: r => (c :: ·) <$> expand env r
termination_by s.length
decreasing_by
  · have := length_body? _h
    simp only [List.length_cons]
    omega
  · simp

end Environment

end MapLayer
