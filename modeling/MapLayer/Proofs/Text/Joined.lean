import MapLayer.Proofs.Text.Pieces

/-! Joined texts that can be told apart. Main statement: texts whose end can be made out before a separator
come from one list only. -/

namespace MapLayer.Text

/-- What may follow a text among joined ones: nothing, or the first character of the separator. -/
def Follows (mark : Char) (s : List Char) : Prop := ∀ c ∈ s.head?, c = mark

/-- Texts that are not empty and whose end can be made out, whatever may follow. -/
structure Ended (mark : Char) (good : List Char → Prop) : Prop where
  filled : ∀ s, good s → s ≠ []
  stop : ∀ s t, good s → good t → ∀ q r, Follows mark q → Follows mark r → s ++ q = t ++ r → s = t

theorem Ended.mono {mark : Char} {good fewer : List Char → Prop} (ended : Ended mark good)
    (sub : ∀ s, fewer s → good s) : Ended mark fewer :=
  ⟨fun s hs => ended.filled s (sub s hs), fun s t hs ht => ended.stop s t (sub s hs) (sub t ht)⟩

theorem ended_of_not_mem {mark : Char} {good : List Char → Prop} (filled : ∀ s, good s → s ≠ [])
    (apart : ∀ s, good s → mark ∉ s) : Ended mark good := by
  have front {s q : List Char} (hs : good s) (hq : Follows mark q) :
      (s ++ q).takeWhile (· != mark) = s := by
    cases q with
    | nil =>
      rw [List.append_nil]
      exact List.takeWhile_eq_self_iff.2 fun c hc => bne_iff_ne.2 fun e => apart s hs (e ▸ hc)
    | cons c q =>
      obtain rfl := hq c rfl
      exact takeWhile_ne_append (apart s hs) q
  refine ⟨filled, fun s t hs ht q r hq hr same => ?_⟩
  rw [← front hs hq, same, front ht hr]

theorem join_cons (mark : List Char) (s : List Char) (ss : List (List Char)) :
    join mark (s :: ss) = s ++ (if ss = [] then [] else mark ++ join mark ss) := by
  cases ss with
  | nil => simp [join]
  | cons t ss => simp [join]

theorem join_injective {mark : Char} {rest : List Char} {good : List Char → Prop}
    (ended : Ended mark good) {ss ts : List (List Char)} (hs : ∀ s ∈ ss, good s)
    (ht : ∀ t ∈ ts, good t) (same : join (mark :: rest) ss = join (mark :: rest) ts) : ss = ts := by
  have follows (us : List (List Char)) :
      Follows mark (if us = [] then [] else mark :: rest ++ join (mark :: rest) us) := by
    split
    · exact nofun
    · rintro _ ⟨⟩
      rfl
  induction ss generalizing ts with
  | nil =>
    cases ts with
    | nil => rfl
    | cons t ts =>
      rw [join_cons] at same
      exact absurd (List.append_eq_nil_iff.1 same.symm).1 (ended.filled t (ht t List.mem_cons_self))
  | cons s ss ih =>
    cases ts with
    | nil =>
      rw [join_cons] at same
      exact absurd (List.append_eq_nil_iff.1 same).1 (ended.filled s (hs s List.mem_cons_self))
    | cons t ts =>
      rw [join_cons, join_cons] at same
      obtain rfl := ended.stop s t (hs s List.mem_cons_self) (ht t List.mem_cons_self) _ _
        (follows ss) (follows ts) same
      have rests := List.append_cancel_left same
      -- where one list ends the other does too, since a separator would be left over
      refine congrArg (s :: ·) (ih (fun u hu => hs u (List.mem_cons_of_mem _ hu))
        (fun u hu => ht u (List.mem_cons_of_mem _ hu)) ?_)
      cases ss with
      | nil =>
        cases ts with
        | nil => rfl
        | cons u ts => cases rests
      | cons u ss =>
        cases ts with
        | nil => cases rests
        | cons v ts => exact List.append_cancel_left rests

variable {α β : Type}

/-- Where a way of writing tells what it writes apart, so does writing one after the other. -/
theorem map_eq_of_join {mark : Char} {rest : List Char} {good : α → Prop} {write : α → List Char}
    {read : α → β} (ended : Ended mark fun s => ∃ a, good a ∧ write a = s)
    (apart : ∀ a b, good a → good b → write a = write b → read a = read b) {as bs : List α}
    (ha : ∀ a ∈ as, good a) (hb : ∀ b ∈ bs, good b)
    (same : join (mark :: rest) (as.map write) = join (mark :: rest) (bs.map write)) :
    as.map read = bs.map read := by
  have texts := join_injective ended
    (List.forall_mem_map.2 fun a h => ⟨a, ha a h, rfl⟩)
    (List.forall_mem_map.2 fun b h => ⟨b, hb b h, rfl⟩) same
  clear same
  induction as generalizing bs with
  | nil =>
    cases bs with
    | nil => rfl
    | cons b bs => cases texts
  | cons a as ih =>
    cases bs with
    | nil => cases texts
    | cons b bs =>
      obtain ⟨first, others⟩ := List.cons.inj texts
      rw [List.map_cons, List.map_cons,
        apart a b (ha a List.mem_cons_self) (hb b List.mem_cons_self) first]
      exact congrArg (read b :: ·) (ih (fun c hc => ha c (List.mem_cons_of_mem _ hc))
        (fun c hc => hb c (List.mem_cons_of_mem _ hc)) others)

end MapLayer.Text
