import MapLayer.Failure
import MapLayer.Proofs.Environment.Braces
import MapLayer.Proofs.Text.Cut

/-!
Texts that are put together from plain pieces and references. Main statement: each reference is replaced by what
it stands for and nothing else is changed, and what cannot be replaced is a variable without a value or a
reference that is not closed.
-/

namespace MapLayer.Environment

open MapLayer.Text

inductive Segment
  | literal (s : List Char)
  | reference (body : List Char)

def fallbackMark : List Char := [':', '-']

def referenceMark : List Char := ['$', '\x7b']

namespace Segment

def text : Segment → List Char
  | literal s => s
  | reference body => referenceMark ++ body ++ ['\x7d']

/-- A piece that is what it seems. -/
def Proper : Segment → Prop
  | literal s => ∀ b r, s ≠ b ++ referenceMark ++ r
  | reference body => Balanced body

def IsLiteral : Segment → Prop
  | literal _ => True
  | reference _ => False

end Segment

/-- Pieces of a text without two plain ones next to each other. -/
structure Segmented (segments : List Segment) : Prop where
  proper : ∀ s ∈ segments, s.Proper
  merged : segments.IsChain fun s t => ¬ (s.IsLiteral ∧ t.IsLiteral)

/-- What a reference stands for: the value of its variable, or the default if that is empty or there is none. -/
inductive StandsFor (env : Environment) (body : List Char) : List Char → Prop
  | given {name fallback value : List Char} (cut : FirstCut fallbackMark body name fallback)
    (set : env.valueAt? name = some value) (filled : value ≠ []) : StandsFor env body value
  | fallback {name fallback : List Char} (cut : FirstCut fallbackMark body name fallback)
    (empty : ∀ value, env.valueAt? name = some value → value = []) : StandsFor env body fallback
  | plain {value : List Char} (bare : ∀ b r, body ≠ b ++ fallbackMark ++ r)
    (set : env.valueAt? body = some value) : StandsFor env body value

/-- A reference without a default to a variable that is not set. -/
def Unset (env : Environment) (body : List Char) : Prop :=
  (∀ b r, body ≠ b ++ fallbackMark ++ r) ∧ env.valueAt? body = none

inductive Segment.ReplacedBy (env : Environment) : Segment → List Char → Prop
  | literal (s : List Char) : ReplacedBy env (.literal s) s
  | reference {body value : List Char} (stands : StandsFor env body value) :
    ReplacedBy env (.reference body) value

variable {env : Environment}

theorem getD_filter (value fallback : List Char) :
    ((some value).filter (· ≠ [])).getD fallback = if value = [] then fallback else value := by
  by_cases empty : value = [] <;> simp [Option.filter, empty]

theorem reference_eq_ok_iff {body value : List Char} :
    env.reference body = .ok value ↔ StandsFor env body value := by
  rw [reference]
  cases cut : cut? [':', '-'] body with
  | some parts =>
    obtain ⟨name, fallback⟩ := parts
    have first : FirstCut fallbackMark body name fallback := cut?_eq_some_iff.1 cut
    rw [Except.ok.injEq]
    constructor
    · rintro rfl
      cases set : env.valueAt? name with
      | none => exact .fallback first (by simp [set])
      | some value =>
        rw [getD_filter]
        split
        · rename_i empty
          exact .fallback first (by simp [set, empty])
        · rename_i filled
          exact .given first set filled
    · rintro (⟨cut', set, filled⟩ | ⟨cut', empty⟩ | ⟨bare, -⟩)
      · obtain ⟨rfl, rfl⟩ := first.unique cut'
        rw [set, getD_filter, if_neg filled]
      · obtain ⟨rfl, rfl⟩ := first.unique cut'
        cases set : env.valueAt? name with
        | none => rfl
        | some value => rw [getD_filter, if_pos (empty value set)]
      · exact absurd first.text (bare _ _)
  | none =>
    have bare : ∀ b r, body ≠ b ++ fallbackMark ++ r := cut?_eq_none_iff.1 cut
    constructor
    · intro h
      cases set : env.valueAt? body with
      | none => simp [set] at h
      | some value =>
        simp only [set, Except.ok.injEq] at h
        exact h ▸ .plain bare set
    · rintro (⟨cut', -, -⟩ | ⟨cut', -⟩ | ⟨-, set⟩)
      · exact absurd cut'.text (bare _ _)
      · exact absurd cut'.text (bare _ _)
      · simp [set]

theorem reference_eq_error_iff {body : List Char} :
    (∃ e, env.reference body = .error e) ↔ Unset env body := by
  rw [reference, Unset, ← cut?_eq_none_iff, fallbackMark]
  cases cut? [':', '-'] body with
  | some parts => simp
  | none => cases env.valueAt? body <;> simp

theorem expand_nil : env.expand [] = .ok [] := by rw [expand]

theorem expand_reference {r body rest : List Char} (closed : body? 0 r = some (body, rest)) :
    env.expand (referenceMark ++ r) = do
      let value ← env.reference body
      return value ++ (← env.expand rest) := by
  rw [referenceMark, List.cons_append, List.cons_append, List.nil_append, expand]
  split
  · rename_i none
    rw [closed] at none
    cases none
  · rename_i found
    rw [closed] at found
    cases found
    rfl

theorem expand_unclosed {r : List Char} (open' : body? 0 r = none) :
    env.expand (referenceMark ++ r) = .error (.unclosed r) := by
  rw [referenceMark, List.cons_append, List.cons_append, List.nil_append, expand]
  split
  · rfl
  · rename_i found
    rw [open'] at found
    cases found

theorem expand_cons {c : Char} {r : List Char} (plain : ∀ t, c :: r ≠ referenceMark ++ t) :
    env.expand (c :: r) = (c :: ·) <$> env.expand r := by
  rw [expand]
  rintro t rfl rfl
  exact plain t rfl

/-- A plain piece is left as it is, at the end or with a reference behind it. -/
theorem expand_literal {s t : List Char} (plain : ∀ b r, s ≠ b ++ referenceMark ++ r)
    (behind : t = [] ∨ ∃ r, t = referenceMark ++ r) :
    env.expand (s ++ t) = (s ++ ·) <$> env.expand t := by
  induction s with
  | nil => cases h : env.expand t <;> simp [h]
  | cons c s ih =>
    have outside : ∀ r, c :: (s ++ t) ≠ referenceMark ++ r := by
      intro r split
      obtain ⟨rfl, rest⟩ := List.cons.inj split
      cases s with
      | nil => rcases behind with rfl | ⟨r, rfl⟩ <;> cases rest
      | cons d s =>
        obtain ⟨rfl, -⟩ := List.cons.inj rest
        exact plain [] s rfl
    have later : ∀ b r, s ≠ b ++ referenceMark ++ r := fun b r split => plain (c :: b) r (by simp [split])
    rw [List.cons_append, expand_cons outside, ih later]
    cases env.expand t <;> rfl

theorem expand_balanced {body : List Char} (balanced : Balanced body) (t : List Char) :
    env.expand ((Segment.reference body).text ++ t) = do
      let value ← env.reference body
      return value ++ (← env.expand t) := by
  have closed := body?_balanced balanced t
  rw [Segment.text, List.append_assoc, List.append_assoc, List.singleton_append,
    expand_reference closed]

theorem Segmented.behind {s : Segment} {segments : List Segment} (h : Segmented (s :: segments)) :
    Segmented segments :=
  ⟨fun t ht => h.proper t (List.mem_cons_of_mem _ ht), h.merged.tail⟩

theorem Segmented.text_behind {s : List Char} {segments : List Segment}
    (h : Segmented (.literal s :: segments)) :
    segments.flatMap Segment.text = [] ∨ ∃ r, segments.flatMap Segment.text = referenceMark ++ r := by
  cases segments with
  | nil => exact .inl rfl
  | cons t segments =>
    cases t with
    | literal s' => exact absurd ⟨trivial, trivial⟩ (List.isChain_cons_cons.1 h.merged).1
    | reference body => exact .inr ⟨body ++ '\x7d' :: segments.flatMap Segment.text, by simp [Segment.text]⟩

theorem expand_eq_ok_iff {segments : List Segment} (h : Segmented segments) {result : List Char} :
    env.expand (segments.flatMap Segment.text) = .ok result ↔
      ∃ values, List.Forall₂ (Segment.ReplacedBy env) segments values ∧ result = values.flatten := by
  induction segments generalizing result with
  | nil => simp [expand_nil, eq_comm]
  | cons s segments ih =>
    have proper := h.proper s List.mem_cons_self
    cases s with
    | literal s =>
      rw [List.flatMap_cons, Segment.text, expand_literal proper h.text_behind, Outcome.map_eq_ok]
      constructor
      · rintro ⟨rest, expanded, rfl⟩
        obtain ⟨values, each, rfl⟩ := (ih h.behind).1 expanded
        exact ⟨s :: values, .cons (.literal s) each, rfl⟩
      · rintro ⟨_, each, rfl⟩
        cases each with
        | cons first each =>
          cases first with
          | literal => exact ⟨_, (ih h.behind).2 ⟨_, each, rfl⟩, rfl⟩
    | reference body =>
      rw [List.flatMap_cons, expand_balanced proper, Outcome.bind_eq_ok]
      constructor
      · rintro ⟨value, stands, behind⟩
        obtain ⟨rest, expanded, same⟩ := Outcome.bind_eq_ok.1 behind
        obtain rfl := Outcome.pure_eq_ok.1 same
        obtain ⟨values, each, rfl⟩ := (ih h.behind).1 expanded
        exact ⟨value :: values, .cons (.reference (reference_eq_ok_iff.1 stands)) each, rfl⟩
      · rintro ⟨_, each, rfl⟩
        cases each with
        | cons first each =>
          cases first with
          | reference stands =>
            refine ⟨_, reference_eq_ok_iff.2 stands, Outcome.bind_eq_ok.2 ?_⟩
            exact ⟨_, (ih h.behind).2 ⟨_, each, rfl⟩, rfl⟩

theorem expand_eq_error_iff {segments : List Segment} (h : Segmented segments) :
    (∃ e, env.expand (segments.flatMap Segment.text) = .error e) ↔
      ∃ body, .reference body ∈ segments ∧ Unset env body := by
  induction segments with
  | nil => simp [expand_nil]
  | cons s segments ih =>
    have proper := h.proper s List.mem_cons_self
    have later := ih h.behind
    cases s with
    | literal s =>
      rw [List.flatMap_cons, Segment.text, expand_literal proper h.text_behind]
      simp only [List.mem_cons, reduceCtorEq, false_or, ← later]
      cases env.expand (segments.flatMap Segment.text) with
      | error e => exact Iff.rfl
      | ok result => exact ⟨nofun, nofun⟩
    | reference body =>
      rw [List.flatMap_cons, expand_balanced proper]
      simp only [List.mem_cons, Segment.reference.injEq, or_and_right, exists_or, exists_eq_left]
      rw [← later, ← reference_eq_error_iff]
      cases env.reference body with
      | error e => exact ⟨fun _ => .inl ⟨e, rfl⟩, fun _ => ⟨e, rfl⟩⟩
      | ok value =>
        cases env.expand (segments.flatMap Segment.text) with
        | error e => exact ⟨fun _ => .inr ⟨e, rfl⟩, fun _ => ⟨e, rfl⟩⟩
        | ok result => exact ⟨nofun, by rintro (⟨e, h⟩ | ⟨e, h⟩) <;> cases h⟩

theorem expand_reference_error {r body rest : List Char} (closed : body? 0 r = some (body, rest))
    (fails : ∃ e, env.expand rest = .error e) : ∃ e, env.expand (referenceMark ++ r) = .error e := by
  obtain ⟨e, fails⟩ := fails
  rw [expand_reference closed, fails]
  cases env.reference body with
  | error e' => exact ⟨e', rfl⟩
  | ok value => exact ⟨e, rfl⟩

/-- A reference that is never closed cannot be left out, wherever it stands. -/
theorem expand_open {rest : List Char}
    (never : ∀ body after, Balanced body → rest ≠ body ++ '\x7d' :: after) (before : List Char) :
    ∃ e, env.expand (before ++ (referenceMark ++ rest)) = .error e := by
  cases before with
  | nil =>
    cases closed : body? 0 rest with
    | none => exact ⟨_, expand_unclosed closed⟩
    | some parts =>
      obtain ⟨balanced, split⟩ := body?_eq_some_iff.1 closed
      exact absurd split (never _ _ balanced)
  | cons c b =>
    by_cases opens : ∃ t, c :: (b ++ (referenceMark ++ rest)) = referenceMark ++ t
    · obtain ⟨t, start⟩ := opens
      obtain ⟨rfl, second⟩ := List.cons.inj start
      cases b with
      | nil => cases second
      | cons d b =>
        obtain ⟨rfl, rfl⟩ := List.cons.inj second
        change ∃ e, env.expand (referenceMark ++ (b ++ (referenceMark ++ rest))) = .error e
        cases closed : body? 0 (b ++ (referenceMark ++ rest)) with
        | none => exact ⟨_, expand_unclosed closed⟩
        | some parts =>
          obtain ⟨body, r⟩ := parts
          obtain ⟨balanced, split⟩ := body?_eq_some_iff.1 closed
          refine expand_reference_error closed ?_
          -- a reference that ended behind the open one would have closed it
          rcases List.append_eq_append_iff.1 split with ⟨u, rfl, inside⟩ | ⟨u, rfl, behind⟩
          · rcases u with _ | ⟨_, _ | ⟨_, u⟩⟩
            · cases inside
            · cases inside
            · simp only [referenceMark, List.cons_append, List.nil_append, List.cons.injEq] at inside
              obtain ⟨rfl, rfl, rfl⟩ := inside
              have opened : b ++ '$' :: '\x7b' :: u = (b ++ ['$']) ++ '\x7b' :: u := by simp
              obtain ⟨inner, after, closes, rfl⟩ := balanced.behind_brace opened
              exact absurd (by simp) (never inner (after ++ '\x7d' :: r) closes)
          · cases u with
            | nil => cases behind
            | cons d u =>
              obtain ⟨rfl, rfl⟩ := List.cons.inj behind
              exact expand_open never u
    · rw [List.cons_append, expand_cons fun t split => opens ⟨t, split⟩]
      obtain ⟨e, fails⟩ := expand_open never b
      exact ⟨e, by rw [fails]; rfl⟩
termination_by before.length

theorem segmented_reference {body : List Char} (balanced : Balanced body) {segments : List Segment}
    (h : Segmented segments) : Segmented (.reference body :: segments) := by
  refine ⟨List.forall_mem_cons.2 ⟨balanced, h.proper⟩, ?_⟩
  cases segments with
  | nil => exact List.isChain_singleton _
  | cons s segments => exact List.isChain_cons_cons.2 ⟨fun both => both.1, h.merged⟩

/-- A character that opens no reference is plain, together with what is plain behind it. -/
theorem exists_segmented_cons {c : Char} {segments : List Segment} (h : Segmented segments)
    (outside : ∀ t, c :: segments.flatMap Segment.text ≠ referenceMark ++ t) :
    ∃ more, Segmented more ∧ c :: segments.flatMap Segment.text = more.flatMap Segment.text := by
  have alone : (Segment.literal [c]).Proper := by
    intro b r split
    have length := congrArg List.length split
    simp [referenceMark] at length
    omega
  cases segments with
  | nil => exact ⟨[.literal [c]], ⟨by simpa using alone, List.isChain_singleton _⟩, rfl⟩
  | cons s segments =>
    cases s with
    | reference body =>
      refine ⟨.literal [c] :: .reference body :: segments, ⟨List.forall_mem_cons.2 ⟨alone, h.proper⟩,
        List.isChain_cons_cons.2 ⟨fun both => both.2, h.merged⟩⟩, rfl⟩
    | literal s =>
      refine ⟨.literal (c :: s) :: segments, ⟨List.forall_mem_cons.2 ⟨?_, h.behind.proper⟩, ?_⟩, rfl⟩
      · intro b r split
        cases b with
        | nil =>
          refine outside (r ++ segments.flatMap Segment.text) ?_
          rw [List.flatMap_cons, Segment.text, ← List.cons_append, split, List.nil_append, List.append_assoc]
        | cons d b => exact h.proper _ List.mem_cons_self b r (List.cons.inj split).2
      · cases segments with
        | nil => exact List.isChain_singleton _
        | cons t segments => exact List.isChain_cons_cons.2 (List.isChain_cons_cons.1 h.merged)

/-- Every text is put together from such pieces, or has a reference that is never closed. -/
theorem segments_or_open (s : List Char) :
    (∃ segments, Segmented segments ∧ s = segments.flatMap Segment.text) ∨
      ∃ before rest, s = before ++ (referenceMark ++ rest) ∧
        ∀ body after, Balanced body → rest ≠ body ++ '\x7d' :: after := by
  by_cases opens : ∃ t, s = referenceMark ++ t
  · obtain ⟨t, rfl⟩ := opens
    cases closed : body? 0 t with
    | none =>
      refine .inr ⟨[], t, rfl, fun body after balanced split => ?_⟩
      rw [body?_eq_some_iff.2 ⟨balanced, split⟩] at closed
      cases closed
    | some parts =>
      obtain ⟨body, rest⟩ := parts
      obtain ⟨balanced, split⟩ := body?_eq_some_iff.1 closed
      have shorter := length_body? closed
      rcases segments_or_open rest with ⟨segments, h, rfl⟩ | ⟨before, rest, rfl, never⟩
      · exact .inl ⟨.reference body :: segments, segmented_reference balanced h, by simp [Segment.text, split]⟩
      · exact .inr ⟨referenceMark ++ body ++ '\x7d' :: before, rest, by simp [split], never⟩
  · cases s with
    | nil => exact .inl ⟨[], ⟨nofun, .nil⟩, rfl⟩
    | cons c s =>
      rcases segments_or_open s with ⟨segments, h, rfl⟩ | ⟨before, rest, rfl, never⟩
      · exact .inl (exists_segmented_cons h fun t split => opens ⟨t, split⟩)
      · exact .inr ⟨c :: before, rest, rfl, never⟩
termination_by s.length

/-- A text has an expansion only by its pieces. -/
theorem expand_eq_ok_iff_exists {s result : List Char} : env.expand s = .ok result ↔
    ∃ segments values, Segmented segments ∧ s = segments.flatMap Segment.text ∧
      List.Forall₂ (Segment.ReplacedBy env) segments values ∧ result = values.flatten := by
  constructor
  · intro read
    rcases segments_or_open s with ⟨segments, h, rfl⟩ | ⟨before, rest, rfl, never⟩
    · obtain ⟨values, stand, text⟩ := (expand_eq_ok_iff h).1 read
      exact ⟨segments, values, h, rfl, stand, text⟩
    · obtain ⟨e, fails⟩ := expand_open never before
      cases read.symm.trans fails
  · rintro ⟨segments, values, h, rfl, stand, text⟩
    exact (expand_eq_ok_iff h).2 ⟨values, stand, text⟩

/-- Plain pieces are kept and references replaced by what they stand for, once and as it is, unless a reference
without a default names a variable that is not set. A text with a reference that is never closed has no
expansion. -/
theorem expand_segments (env : Environment) :
    (∀ segments, Segmented segments →
      (∀ result, env.expand (segments.flatMap Segment.text) = .ok result ↔
        ∃ values, List.Forall₂ (Segment.ReplacedBy env) segments values ∧ result = values.flatten) ∧
      ((∃ e, env.expand (segments.flatMap Segment.text) = .error e) ↔
        ∃ body, .reference body ∈ segments ∧ Unset env body)) ∧
    ∀ before rest, (∀ body after, Balanced body → rest ≠ body ++ '\x7d' :: after) →
      ∃ e, env.expand (before ++ (referenceMark ++ rest)) = .error e :=
  ⟨fun _ h => ⟨fun _ => expand_eq_ok_iff h, expand_eq_error_iff h⟩,
    fun before _ never => expand_open never before⟩

/-- A default that holds a reference of its own, behind a dollar sign that opens nothing. -/
theorem expand_segments_nested :
    let env := Environment.ofList [("HOST", "maps"), ("PORT", "")]
    let fallback := "$\x7bHOST:-x\x7d:-\x7b\x7d".toList
    let segments := [.literal ['$'], .reference "HOST".toList, .literal ['/'],
      .reference (" PORT :-".toList ++ fallback)]
    Segmented segments ∧
      env.expand (segments.flatMap Segment.text) = .ok ("$maps/".toList ++ fallback) := by
  intro env fallback segments
  have plain (c : Char) (single : cut? referenceMark [c] = none) : (Segment.literal [c]).Proper :=
    cut?_eq_none_iff.1 single
  have closed (body : List Char) (ends : body? 0 (body ++ ['\x7d']) = some (body, [])) :
      (Segment.reference body).Proper := (body?_eq_some_iff.1 ends).1
  have segmented : Segmented segments := by
    constructor
    · simp only [segments, List.forall_mem_cons]
      exact ⟨plain _ (by decide), closed _ (by decide), plain _ (by decide), closed _ (by decide), nofun⟩
    · simp [segments, Segment.IsLiteral]
  have bare : cut? fallbackMark "HOST".toList = none := by decide
  have cut : cut? fallbackMark (" PORT :-".toList ++ fallback) = some (" PORT ".toList, fallback) := by
    decide
  refine ⟨segmented, (((expand_segments env).1 segments segmented).1 _).2 ?_⟩
  refine ⟨[['$'], "maps".toList, ['/'], fallback], ?_, by decide⟩
  refine .cons (.literal _) (.cons (.reference ?_) (.cons (.literal _) (.cons (.reference ?_) .nil)))
  · exact .plain (cut?_eq_none_iff.1 bare) (by decide)
  · exact .fallback (cut?_eq_some_iff.1 cut) (by decide)

end MapLayer.Environment
