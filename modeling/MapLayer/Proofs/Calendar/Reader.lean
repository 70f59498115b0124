import MapLayer.Calendar.Reader
import MapLayer.Proofs.Calendar.Clock
import MapLayer.Proofs.Calendar.Months

/-!
Instants that are read. Main statements: each of them is one of the calendar, perhaps in a leap second, and no
bar stands in its text.
-/

namespace MapLayer.Instant

open MapLayer.Text

def Dated (x : Option Instant) : Prop := ∀ t, x = some t → t.InCalendar

theorem Dated.bind {α : Type} {x : Option α} {f : α → Option Instant} (h : ∀ a, Dated (f a)) :
    Dated (x >>= f) := by
  cases x with
  | none => nofun
  | some a => exact h a

theorem Dated.ite {p : Prop} [Decidable p] {x : Option Instant} (h : Dated x) :
    Dated (if p then x else none) := by
  split
  · exact h
  · nofun

theorem dated_ofSeconds? (day seconds : Int) (nano : Nat) : Dated (ofSeconds? day seconds nano) :=
  fun _ found => (ofSeconds?_eq_some.1 found).1

theorem dated_compose? (d : Date) (hour minute second nano : Nat) (offset : Int) :
    Dated (compose? d hour minute second nano offset) := by
  refine .bind fun day => ?_
  dsimp only
  split
  · nofun
  · exact dated_ofSeconds? _ _ _

theorem dated_rfc3339? (s : List Char) : Dated (rfc3339? s) := by
  refine .bind fun (_, _) => .bind fun _ => .bind fun (_, _) => .bind fun _ => .bind fun (_, _) => ?_
  dsimp only
  split
  all_goals
    refine .bind fun _ => .bind fun (_, _) => .bind fun _ => .bind fun (_, _) => .bind fun _ => ?_
    exact .bind fun (_, _) => .bind fun (_, _) => .bind fun (_, _) => (dated_compose? _ _ _ _ _ _).ite

theorem dated_dateAndTime? (s : List Char) : Dated (dateAndTime? s) :=
  .bind fun (_, _) => .bind fun _ => .bind fun ((_, _, _), _) => .bind fun (_, _) =>
    (dated_compose? _ _ _ _ _ _).ite

theorem dated_dateSpaceTime? (s : List Char) : Dated (dateSpaceTime? s) :=
  .bind fun (_, _) => .bind fun ((_, _, _), _) => (dated_compose? _ _ _ _ _ _).ite

theorem dated_dateAlone? (s : List Char) : Dated (dateAlone? s) := by
  refine .bind fun (date, _) => .ite ?_
  intro t found
  obtain ⟨day, numbered, rfl⟩ := Option.map_eq_some_iff.1 found
  exact ⟨Date.inRange_of_number? numbered, Nat.succ_pos _⟩

theorem Dated.orElse {x y : Option Instant} (hx : Dated x) (hy : Dated y) : Dated (x <|> y) := by
  cases x with
  | none => exact hy
  | some t => exact hx

theorem dated_ofText? (s : List Char) : Dated (ofText? s) :=
  (dated_rfc3339? s).orElse ((dated_dateAndTime? s).orElse
    ((dated_dateSpaceTime? s).orElse (dated_dateAlone? s)))

/-- Where a bar stands in a text, one stands in what a reading of it leaves. -/
def KeepsBar {α : Type} (s : List Char) (rest : α → List Char) (x : Option α) : Prop :=
  ∀ a, x = some a → '|' ∈ s → '|' ∈ rest a

section

variable {α β : Type} {s : List Char} {rest : α → List Char} {rest' : β → List Char}

theorem KeepsBar.bind {x : Option α} {f : α → Option β} (first : KeepsBar s rest x)
    (others : ∀ a, KeepsBar (rest a) rest' (f a)) : KeepsBar s rest' (x >>= f) := by
  intro b found bar
  obtain ⟨a, one, other⟩ := Option.bind_eq_some_iff.1 found
  exact others a b other (first a one bar)

theorem KeepsBar.orElse {x y : Option α} (hx : KeepsBar s rest x) (hy : KeepsBar s rest y) :
    KeepsBar s rest (x <|> y) := by
  cases x with
  | none => exact hy
  | some a => exact hx

theorem KeepsBar.ite {p : Prop} [Decidable p] {x : Option α} (h : KeepsBar s rest x) :
    KeepsBar s rest (if p then x else none) := by
  split
  · exact h
  · nofun

theorem KeepsBar.pair (a : α) (s : List Char) : KeepsBar s Prod.snd (some (a, s)) := by
  rintro _ ⟨⟩ bar
  exact bar

theorem KeepsBar.whole (x : Option α) : KeepsBar s (fun _ => []) (if s = [] then x else none) := by
  intro a found bar
  split at found
  · rename_i empty
    exact empty ▸ bar
  · cases found

end

theorem bar_mem_tail {c : Char} {s : List Char} (other : c ≠ '|') (bar : '|' ∈ c :: s) : '|' ∈ s :=
  (List.mem_cons.1 bar).resolve_left other.symm

theorem bar_mem_dropWhile {p : Char → Bool} (other : p '|' = false) {s : List Char} (bar : '|' ∈ s) :
    '|' ∈ s.dropWhile p := by
  rw [← List.takeWhile_append_dropWhile (p := p) (l := s)] at bar
  refine (List.mem_append.1 bar).resolve_left fun front => ?_
  have inside := List.all_eq_true.1 List.all_takeWhile '|' front
  rw [other] at inside
  cases inside

theorem keepsBar_digits? (least most : Nat) (s : List Char) :
    KeepsBar s Prod.snd (digits? least most s) := by
  intro a found bar
  simp only [digits?] at found
  split at found
  · cases found
  · cases found
    let ds := (s.take most).takeWhile Char.isDigit
    have split : ds ++ s.drop ds.length = s := by
      have front : ds <+: s := (List.takeWhile_prefix _).trans (List.take_prefix _ _)
      exact List.prefix_iff_eq_append.1 front
    rw [← split] at bar
    refine (List.mem_append.1 bar).resolve_left fun digit => ?_
    have inside := List.all_eq_true.1 List.all_takeWhile '|' digit
    cases inside

theorem keepsBar_loose? (s : List Char) : KeepsBar s Prod.snd (loose? s) :=
  fun a found bar => keepsBar_digits? 1 2 _ a found (bar_mem_dropWhile (by decide) bar)

theorem keepsBar_mark? {c : Char} (other : c ≠ '|') (s : List Char) : KeepsBar s id (mark? c s) := by
  intro r found bar
  obtain rfl := after?_eq_some_iff.1 found
  exact bar_mem_tail other bar

theorem keepsBar_fraction? (s : List Char) : KeepsBar s Prod.snd (fraction? s) := by
  intro a found bar
  unfold fraction? at found
  split at found
  · dsimp only at found
    split at found
    · cases found
    · cases found
      exact bar_mem_dropWhile (by decide) (bar_mem_tail (by decide) bar)
  · cases found
    exact bar

theorem keepsBar_offset? (s : List Char) : KeepsBar s Prod.snd (offset? s) := by
  unfold offset?
  split
  · rintro _ ⟨⟩ bar
    exact bar_mem_tail (by decide : 'Z' ≠ '|') bar
  · rintro _ ⟨⟩ bar
    exact bar_mem_tail (by decide : 'z' ≠ '|') bar
  · rename_i sign r _ _
    have signed {x : Int} (other : sign ≠ '|') : KeepsBar (sign :: r) (fun _ => r) (some x) :=
      fun _ _ bar => bar_mem_tail other bar
    dsimp only
    split
    · rename_i plus
      exact .bind (signed (by simp [plus])) fun _ => .bind (keepsBar_digits? 2 2 r) fun (_, _) =>
        .bind (keepsBar_mark? (by decide) _) fun _ => .bind (keepsBar_digits? 2 2 _) fun (_, _) =>
        .ite (.pair _ _)
    · split
      · rename_i minus
        have other : sign ≠ '|' := by rcases minus with rfl | rfl <;> decide
        exact .bind (signed other) fun _ => .bind (keepsBar_digits? 2 2 r) fun (_, _) =>
          .bind (keepsBar_mark? (by decide) _) fun _ => .bind (keepsBar_digits? 2 2 _) fun (_, _) =>
          .ite (.pair _ _)
      · nofun
  · nofun

theorem keepsBar_year? (s : List Char) : KeepsBar s Prod.snd (year? s) := by
  intro a found bar
  have bar : '|' ∈ trimLeft isBlank s := bar_mem_dropWhile (by decide) bar
  unfold year? at found
  split at found
  all_goals obtain ⟨⟨n, rest⟩, read, rfl⟩ := Option.map_eq_some_iff.1 found
  · rename_i front
    rw [front] at bar
    exact keepsBar_digits? _ _ _ _ read (bar_mem_tail (by decide) bar)
  · rename_i front
    rw [front] at bar
    exact keepsBar_digits? _ _ _ _ read (bar_mem_tail (by decide) bar)
  · exact keepsBar_digits? _ _ _ _ read bar

theorem keepsBar_looseDate? (s : List Char) : KeepsBar s Prod.snd (looseDate? s) :=
  .bind (keepsBar_year? s) fun (_, _) => .bind (keepsBar_mark? (by decide) _) fun _ =>
    .bind (keepsBar_loose? _) fun (_, _) => .bind (keepsBar_mark? (by decide) _) fun _ =>
    .bind (keepsBar_loose? _) fun (_, _) => .pair _ _

theorem keepsBar_looseTime? (s : List Char) : KeepsBar s Prod.snd (looseTime? s) :=
  .bind (keepsBar_loose? s) fun (_, _) => .bind (keepsBar_mark? (by decide) _) fun _ =>
    .bind (keepsBar_loose? _) fun (_, _) => .bind (keepsBar_mark? (by decide) _) fun _ =>
    .bind (keepsBar_loose? _) fun (_, _) => .pair _ _

theorem keepsBar_rfc3339? (s : List Char) : KeepsBar s (fun _ => []) (rfc3339? s) := by
  refine .bind (keepsBar_digits? 4 4 s) fun (_, _) => .bind (keepsBar_mark? (by decide) _) fun _ =>
    .bind (keepsBar_digits? 2 2 _) fun (_, _) => .bind (keepsBar_mark? (by decide) _) fun _ =>
    .bind (keepsBar_digits? 2 2 _) fun (_, rest) => ?_
  dsimp only
  split
  all_goals
    refine .bind (?_ : KeepsBar _ id _) fun _ => .bind (keepsBar_digits? 2 2 _) fun (_, _) =>
      .bind (keepsBar_mark? (by decide) _) fun _ => .bind (keepsBar_digits? 2 2 _) fun (_, _) =>
      .bind (keepsBar_mark? (by decide) _) fun _ => .bind (keepsBar_digits? 2 2 _) fun (_, _) =>
      .bind (keepsBar_fraction? _) fun (_, _) => .bind (keepsBar_offset? _) fun (_, _) => .whole _
  · rintro _ ⟨⟩ bar
    exact bar_mem_tail (by decide : 'T' ≠ '|') bar
  · rintro _ ⟨⟩ bar
    exact bar_mem_tail (by decide : 't' ≠ '|') bar
  · rintro _ ⟨⟩ bar
    exact bar_mem_tail (by decide : ' ' ≠ '|') bar
  · nofun

theorem keepsBar_dateAndTime? (s : List Char) : KeepsBar s (fun _ => []) (dateAndTime? s) :=
  .bind (keepsBar_looseDate? s) fun (_, _) => .bind (keepsBar_mark? (by decide) _) fun _ =>
    .bind (keepsBar_looseTime? _) fun ((_, _, _), _) => .bind (keepsBar_fraction? _) fun (_, _) =>
    .whole _

theorem keepsBar_dateSpaceTime? (s : List Char) : KeepsBar s (fun _ => []) (dateSpaceTime? s) := by
  refine .bind (keepsBar_looseDate? s) fun (_, rest) => ?_
  have blanks : KeepsBar rest id (some (trimLeft isBlank rest)) := by
    rintro _ ⟨⟩ bar
    exact bar_mem_dropWhile (by decide) bar
  exact blanks.bind fun _ => .bind (keepsBar_looseTime? _) fun ((_, _, _), _) => .whole _

theorem keepsBar_dateAlone? (s : List Char) : KeepsBar s (fun _ => []) (dateAlone? s) :=
  .bind (keepsBar_looseDate? s) fun (_, _) => .whole _

theorem bar_not_mem_of_ofText? {s : List Char} {t : Instant} (found : ofText? s = some t) : '|' ∉ s := by
  intro bar
  have left := (keepsBar_rfc3339? s).orElse ((keepsBar_dateAndTime? s).orElse
    ((keepsBar_dateSpaceTime? s).orElse (keepsBar_dateAlone? s))) t found bar
  cases left

theorem ofText?_letter (s : List Char) : ofText? ('n' :: s) = none := rfl

end MapLayer.Instant
