import MapLayer.Proofs.Context.Run

/-!
How live sources are refreshed. Main statement: from one teardown of a source to the next its live checks
keep to the interval, drop the cached tiles at every refresh but the first, and remember the last one.
-/

namespace MapLayer

namespace MapContext

variable {η : Type}

/-- The rules that the checks of one source keep, with the moment of refresh that is remembered after
them. -/
structure KeepsInterval (interval : Nat) (last? : Option Int) (checks : List Checked) : Prop where
  loaded : ∀ a ∈ checks, a.refreshes = true → a.loaded = true
  apart : (checks.filter Checked.refreshes).Pairwise fun a b =>
    a.moment + (interval : Int) ≤ b.moment
  due : ∀ earlier a, earlier ++ [a] <+: checks → a.descriptor.nrt = true → a.loaded = true →
    (∀ last ∈ (earlier.filter Checked.refreshes).getLast?, last.moment + (interval : Int) ≤ a.moment) →
    a.refreshes = true
  reloads : checks.filter Checked.reloads = (checks.filter Checked.refreshes).tail
  remembered : last? = (checks.filter Checked.refreshes).getLast?.map (·.moment)

namespace KeepsInterval

variable {interval : Nat} {last? : Option Int} {checks : List Checked} {a : Checked}

theorem nil (interval : Nat) : KeepsInterval interval none [] where
  loaded := by simp
  apart := by simp
  due := by simp
  reloads := rfl
  remembered := rfl

/-- A check that refreshes nothing, which a live check with its tiles loaded may only do too early. -/
theorem concat_calm (h : KeepsInterval interval last? checks) (calm : a.refreshes = false)
    (silent : a.reloads = false)
    (early : a.descriptor.nrt = true → a.loaded = true →
      ∃ last, last? = some last ∧ a.moment < last + interval) :
    KeepsInterval interval last? (checks ++ [a]) := by
  have same : (checks ++ [a]).filter Checked.refreshes = checks.filter Checked.refreshes := by
    simp [calm]
  constructor
  case loaded =>
    intro b hb refreshed
    rcases List.mem_append.1 hb with hb | hb
    · exact h.loaded b hb refreshed
    · obtain rfl := List.mem_singleton.1 hb
      simp [calm] at refreshed
  case apart =>
    exact same ▸ h.apart
  case due =>
    intro earlier b within live loaded due
    rcases List.prefix_concat_iff.1 within with whole | within
    · obtain ⟨rfl, rfl⟩ : earlier = checks ∧ b = a := by simpa using whole
      obtain ⟨last, found, tooSoon⟩ := early live loaded
      rw [h.remembered, Option.map_eq_some_iff] at found
      obtain ⟨last, found, rfl⟩ := found
      have := due last found
      omega
    · exact h.due earlier b within live loaded due
  case reloads =>
    rw [same, ← h.reloads]
    simp [silent]
  case remembered =>
    exact same ▸ h.remembered

/-- Every refresh is the one that is remembered, or comes before it. -/
theorem le_remembered (h : KeepsInterval interval last? checks) {b : Checked}
    (hb : b ∈ checks.filter Checked.refreshes) : ∃ last, last? = some last ∧ b.moment ≤ last := by
  obtain ⟨before, last, split⟩ := List.eq_nil_or_concat _ |>.resolve_left (List.ne_nil_of_mem hb)
  rw [List.concat_eq_append] at split
  refine ⟨last.moment, by rw [h.remembered, split]; simp, ?_⟩
  have apart := h.apart
  rw [split, List.pairwise_append] at apart
  rw [split] at hb
  rcases List.mem_append.1 hb with hb | hb
  · have gap := apart.2.2 b hb last (List.mem_singleton.2 rfl)
    omega
  · obtain rfl := List.mem_singleton.1 hb
    exact Int.le_refl _

theorem concat_refresh (h : KeepsInterval interval last? checks) (refreshed : a.refreshes = true)
    (loaded : a.loaded = true) (reloads : a.reloads = last?.isSome)
    (since : ∀ last ∈ last?, last + interval ≤ a.moment) :
    KeepsInterval interval (some a.moment) (checks ++ [a]) := by
  have more : (checks ++ [a]).filter Checked.refreshes = checks.filter Checked.refreshes ++ [a] := by
    simp [refreshed]
  constructor
  case loaded =>
    intro b hb was
    rcases List.mem_append.1 hb with hb | hb
    · exact h.loaded b hb was
    · exact List.mem_singleton.1 hb ▸ loaded
  case apart =>
    rw [more, List.pairwise_append]
    refine ⟨h.apart, List.pairwise_singleton _ a, ?_⟩
    intro b hb a' ha
    obtain rfl := List.mem_singleton.1 ha
    obtain ⟨last, found, before⟩ := h.le_remembered hb
    exact (Int.add_le_add_right before interval).trans (since last found)
  case due =>
    intro earlier b within live here due
    rcases List.prefix_concat_iff.1 within with whole | within
    · obtain ⟨-, rfl⟩ : earlier = checks ∧ b = a := by simpa using whole
      exact refreshed
    · exact h.due earlier b within live here due
  case reloads =>
    rw [more, List.filter_append, h.reloads]
    cases refreshes : checks.filter Checked.refreshes with
    | nil =>
      have : a.reloads = false := by rw [reloads, h.remembered, refreshes]; rfl
      simp [this]
    | cons first rest =>
      have : a.reloads = true := by rw [reloads, h.remembered, refreshes]; simp
      simp [this]
  case remembered =>
    rw [more]
    simp

theorem concat_live {policy : RefreshPolicy} {q : Inspection} {next? : Option Int} {verdict : StaleCheck}
    (h : KeepsInterval policy.refreshInterval last? checks) (live : q.descriptor.nrt = true)
    (later : ∀ a ∈ checks, a.moment ≤ q.moment)
    (answer : LiveAnswer policy q.loaded q.moment last? next? verdict) :
    KeepsInterval policy.refreshInterval next? (checks ++ [{ q with answer := .ok verdict }]) := by
  cases answer with
  | loading _ away =>
    apply h.concat_calm
    · simp [Checked.refreshes, Checked.stale]
    · rfl
    · simp [away]
  | first here =>
    apply h.concat_refresh (a := { q with answer := .ok { stale := true } })
    · simp [Checked.refreshes, Checked.stale, live]
    · exact here
    · rfl
    · simp
  | again last here due =>
    apply h.concat_refresh (a := { q with answer := .ok { stale := true, reloads := true } })
    · simp [Checked.refreshes, Checked.stale, live]
    · exact here
    · rfl
    · rintro _ ⟨⟩
      have passed : policy.refreshInterval ≤ (q.moment - last).toNat := by simpa [isDue] using due
      -- the interval may be nothing, so that the order of the moments is needed
      have ordered : last ≤ q.moment := by
        obtain ⟨b, hb, rfl⟩ := Option.map_eq_some_iff.1 h.remembered.symm
        exact later b (List.mem_of_mem_filter (List.mem_of_getLast? hb))
      simp only
      omega
  | early last here soon =>
    apply h.concat_calm
    · simp [Checked.refreshes, Checked.stale]
    · rfl
    · intro _ _
      have waits : ¬ policy.refreshInterval ≤ (q.moment - last).toNat := by simpa [isDue] using soon
      refine ⟨last, rfl, ?_⟩
      simp only
      omega

theorem inspect {c : MapContext η} {q : Inspection}
    (h : KeepsInterval c.policy.refreshInterval (c.lastRefresh? q.id) checks)
    (later : ∀ a ∈ checks, a.moment ≤ q.moment) :
    KeepsInterval c.policy.refreshInterval ((c.inspect q).1.lastRefresh? q.id)
      (checks ++ [{ q with answer := (c.inspect q).2 }]) := by
  cases live : q.descriptor.nrt with
  | false =>
    rw [inspect_compared c q live]
    refine h.concat_calm (by simp [Checked.refreshes, live]) ?_ (by simp [live])
    cases answer : compareUrls q.previous q.current with
    | error e => rfl
    | ok verdict => exact not_reloads_of_compareUrls answer
  | true =>
    simp only [inspect_live c q live]
    exact h.concat_live live later (checkLive_answer c q.id q.loaded q.moment)

end KeepsInterval

section

variable {id : String} {span : List (Step η)}

theorem keepsInterval_run {c : MapContext η} (anew : c.lastRefresh? id = none)
    (kept : ∀ s ∈ span, (∃ q, s = .check q) ∨ s.leaves id)
    (ordered : (span.filterMap Step.moment?).Pairwise (· ≤ ·)) :
    KeepsInterval c.policy.refreshInterval ((c.run span).lastRefresh? id)
      ((c.log span).filter (·.id == id)) := by
  induction span using List.reverseRecOn with
  | nil => exact anew ▸ .nil _
  | append_singleton span s ih =>
    rw [List.filterMap_append, List.pairwise_append] at ordered
    have held := ih (fun s hs => kept s (List.mem_append_left _ hs)) ordered.1
    rw [run_concat, log_concat, List.filter_append]
    -- a step that is no check of the source changes neither side
    have passed (h : s.leaves id) : KeepsInterval c.policy.refreshInterval
        (((c.run span).step s).lastRefresh? id)
        ((c.log span).filter (·.id == id) ++
          ((c.run span).checked? s).toList.filter (·.id == id)) := by
      have none : ((c.run span).checked? s).toList.filter (·.id == id) = [] := by
        cases s with
        | check q => simpa [checked?] using show q.id ≠ id from h
        | _ => rfl
      rwa [none, List.append_nil, lastRefresh?_step_of_leaves h]
    obtain ⟨q, rfl⟩ | h := kept s (List.mem_append_right _ (List.mem_singleton.2 rfl))
    · by_cases same : q.id = id
      · subst same
        have later : ∀ a ∈ (c.log span).filter (·.id == q.id), a.moment ≤ q.moment := by
          intro a ha
          have among : a.moment ∈ span.filterMap Step.moment? := by
            rw [← moment_log c]
            exact List.mem_map_of_mem (List.mem_of_mem_filter ha)
          exact ordered.2.2 _ among _ (by simp [Step.moment?])
        rw [← policy_run c span] at held ⊢
        simpa [checked?, step] using held.inspect later
      · exact passed same
    · exact passed h

/-- From one teardown of a source to the next, or from the beginning on, nothing but its checks
refreshes it. -/
theorem keepsInterval_between_teardowns (policy : RefreshPolicy) (hasTimer : Bool)
    {before : List (Step η)} (anew : ∀ s ∈ before.getLast?, s.forgets id)
    (kept : ∀ s ∈ span, (∃ q, s = .check q) ∨ s.leaves id)
    (ordered : (span.filterMap Step.moment?).Pairwise (· ≤ ·)) :
    let c := ({ policy, hasTimer } : MapContext η).run before
    KeepsInterval policy.refreshInterval ((c.run span).lastRefresh? id)
      ((c.log span).filter (·.id == id)) := by
  intro c
  have clean : c.lastRefresh? id = none := by
    rcases List.eq_nil_or_concat before with rfl | ⟨before, s, rfl⟩
    · rfl
    · have last := anew s (by simp)
      simp only [c, List.concat_eq_append, run_concat]
      exact lastRefresh?_step_of_forgets last
  have same : c.policy = policy := policy_run _ before
  exact same ▸ keepsInterval_run clean kept ordered

end

def liveCheck (id : String) (loaded : Bool) (moment : Int) : Inspection :=
  { id, loaded, moment, previous := none, current := ""
    descriptor := { sourceType := "", baseUrl := "", layer := "", name := "", nrt := true } }

theorem keepsInterval_of_five_checks :
    let c := ({} : MapContext Unit).run [.record "a" 7, .teardown]
    let span := [.check (liveCheck "a" false 0), .check (liveCheck "a" true 0),
      .check (liveCheck "b" true 500), .check (liveCheck "a" true 1000),
      .check (liveCheck "a" true 10000)]
    let checks := (c.log span).filter (·.id == "a")
    KeepsInterval 10000 (some 10000) checks ∧
      checks.map (fun a => (a.moment, a.stale, a.reloads))
        = [(0, false, false), (0, true, false), (1000, false, false), (10000, true, true)] := by
  intro c span checks
  constructor
  · have anew : ∀ s ∈ ([.record "a" 7, .teardown] : List (Step Unit)).getLast?, s.forgets "a" := by
      simp [Step.forgets]
    have kept : ∀ s ∈ span, (∃ q, s = .check q) ∨ s.leaves "a" := by simp [span]
    have ordered : (span.filterMap Step.moment?).Pairwise (· ≤ ·) := by decide
    exact keepsInterval_between_teardowns {} true anew kept ordered
  · decide +kernel

end MapContext

end MapLayer
