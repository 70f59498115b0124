import MapLayer.Text.Blank
import MapLayer.Text.Reader

/-!
Reading in front of white space. Main statements: where reading goes on, chooses or changes what was read, it
stays as indifferent to white space behind the text as its parts are.
-/

namespace MapLayer.Text

variable {α β γ : Type} {s : List Char}

def found (r : Reader α) (s : List Char) : Option (α × List Char) :=
  (r s).map fun t => (t.value, t.rest)

theorem length_of_found {r : Reader α} {a : α} {rest : List Char} (h : found r s = some (a, rest)) :
    rest.length < s.length := by
  obtain ⟨t, -, same⟩ := Option.map_eq_some_iff.1 h
  obtain ⟨-, rfl⟩ := Prod.mk.inj same
  exact t.shorter

theorem found_nil (r : Reader α) : found r [] = none := by
  cases h : found r [] with
  | none => rfl
  | some x => exact absurd (length_of_found h) (Nat.not_lt_zero _)

/-- White space behind `s` is left behind what is read of `s`, and changes nothing else. -/
def SteadyAt (f : List Char → Option (β × List Char)) (s : List Char) : Prop :=
  ∀ w : List Char, (∀ c ∈ w, isBlank c = true) → f (s ++ w) = (f s).map (Prod.map id (· ++ w))

theorem steadyAt_pure (b : β) (s : List Char) : SteadyAt (fun s => some (b, s)) s :=
  fun _ _ => rfl

section

variable {f g : List Char → Option (β × List Char)}

theorem SteadyAt.blanks (h : SteadyAt f []) (none : f [] = none) {w : List Char}
    (blank : ∀ c ∈ w, isBlank c = true) : f w = .none := by
  have here := h w blank
  rwa [List.nil_append, none] at here

theorem SteadyAt.map (h : SteadyAt f s) (k : β → γ) :
    SteadyAt (fun s => (f s).map (Prod.map k id)) s := by
  intro w blank
  simp only [h w blank, Option.map_map]
  rfl

theorem SteadyAt.or (hf : SteadyAt f s) (hg : SteadyAt g s) :
    SteadyAt (fun s => (f s).or (g s)) s := by
  intro w blank
  simp only [hf w blank, hg w blank]
  cases f s <;> rfl

def andThen (f : List Char → Option (β × List Char)) (next : β → List Char → Option (γ × List Char))
    (s : List Char) : Option (γ × List Char) :=
  (f s).bind fun x => next x.1 x.2

theorem SteadyAt.andThen {next : β → List Char → Option (γ × List Char)} (h : SteadyAt f s)
    (then' : ∀ b rest, f s = some (b, rest) → SteadyAt (next b) rest) :
    SteadyAt (andThen f next) s := by
  intro w blank
  simp only [Text.andThen, h w blank]
  cases first : f s with
  | none => rfl
  | some x => exact then' x.1 x.2 first w blank

end

def sign (c : Char) : List Char → Option (Unit × List Char)
  | d :: s => if d = c then some ((), s) else none
  | [] => none

@[simp] theorem sign_cons_self (c : Char) (s : List Char) : sign c (c :: s) = some ((), s) :=
  if_pos rfl

theorem sign_cons_of_ne {c d : Char} (other : d ≠ c) (s : List Char) : sign c (d :: s) = none :=
  if_neg other

theorem sign_eq_none {c : Char} (other : ∀ t, s ≠ c :: t) : sign c s = none := by
  cases s with
  | nil => rfl
  | cons d s =>
    refine sign_cons_of_ne ?_ s
    rintro rfl
    exact other s rfl

theorem length_of_sign {c : Char} {u : Unit} {rest : List Char} (h : sign c s = some (u, rest)) :
    rest.length < s.length := by
  unfold sign at h
  split at h
  · split at h
    · obtain ⟨-, rfl⟩ := Prod.mk.inj (Option.some.inj h)
      exact shorter_tail _
    · cases h
  · cases h

theorem steadyAt_sign {c : Char} (solid : isBlank c = false) (s : List Char) : SteadyAt (sign c) s := by
  intro w blank
  cases s with
  | nil =>
    refine sign_eq_none ?_
    rintro t rfl
    simp [solid] at blank
  | cons d s =>
    simp only [List.cons_append, sign]
    split <;> rfl

end MapLayer.Text
