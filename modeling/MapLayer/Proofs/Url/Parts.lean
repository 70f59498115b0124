import MapLayer.Proofs.Url.Form
import MapLayer.Url.Basic

/-! The characters of hosts and paths. Main statement: neither holds a mark that starts a query or a
fragment, nor a control character. -/

namespace MapLayer.Url

open MapLayer.Text

/-- A text without the marks before queries and fragments and without control characters. -/
def Unmarked (s : List Char) : Prop := ∀ c ∈ s, c ≠ '#' ∧ c ≠ '?' ∧ 0x20 ≤ c.toNat

instance (s : List Char) : Decidable (Unmarked s) :=
  inferInstanceAs (Decidable (∀ c ∈ s, c ≠ '#' ∧ c ≠ '?' ∧ 0x20 ≤ c.toNat))

/-- The text between a scheme and a query or a fragment as it may be given. -/
def Uncut (s : List Char) : Prop := '#' ∉ s ∧ '?' ∉ s

namespace Unmarked

variable {s t : List Char}

theorem nil : Unmarked [] := nofun

theorem append (hs : Unmarked s) (ht : Unmarked t) : Unmarked (s ++ t) := by
  intro c hc
  rcases List.mem_append.1 hc with hc | hc
  · exact hs c hc
  · exact ht c hc

theorem cons {c : Char} (hc : c ≠ '#' ∧ c ≠ '?' ∧ 0x20 ≤ c.toNat) (hs : Unmarked s) :
    Unmarked (c :: s) := List.forall_mem_cons.2 ⟨hc, hs⟩

theorem sublist (hs : Unmarked s) (h : t.Sublist s) : Unmarked t := fun c hc => hs c (h.subset hc)

theorem uncut (hs : Unmarked s) : Uncut s := ⟨fun h => (hs _ h).1 rfl, fun h => (hs _ h).2.1 rfl⟩

theorem join {mark : List Char} (hm : Unmarked mark) {texts : List (List Char)}
    (each : ∀ t ∈ texts, Unmarked t) : Unmarked (Text.join mark texts) := by
  intro c hc
  rw [join_eq_intercalate] at hc
  rcases mem_intercalate hc with hc | ⟨t, ht, hc⟩
  · exact hm c hc
  · exact each t ht c hc

end Unmarked

theorem isAlphanum_inner {c : Char} (h : c.isAlphanum = true) :
    c ≠ '#' ∧ c ≠ '?' ∧ 0x20 < c.toNat ∧ c.toNat < 0x7F := by
  refine ⟨?_, ?_, ?_⟩
  · rintro rfl
    revert h
    decide
  · rintro rfl
    revert h
    decide
  · simp only [Char.isAlphanum, Char.isAlpha, Char.isUpper, Char.isLower, Char.isDigit,
      Bool.or_eq_true, Bool.and_eq_true, decide_eq_true_eq, ge_iff_le, UInt32.le_iff_toNat_le] at h
    simp only [Char.toNat]
    have a : 'A'.val.toNat = 65 := rfl
    have z : 'Z'.val.toNat = 90 := rfl
    have a' : 'a'.val.toNat = 97 := rfl
    have z' : 'z'.val.toNat = 122 := rfl
    have zero : '0'.val.toNat = 48 := rfl
    have nine : '9'.val.toNat = 57 := rfl
    omega

theorem mem_percentEncode {must : Char → Bool} {s : List Char} {c : Char}
    (h : c ∈ percentEncode must s) : (c ∈ s ∧ must c = false) ∨ c = '%' ∨ c.isAlphanum = true := by
  obtain ⟨d, hd, hc⟩ := List.mem_flatMap.1 h
  split at hc
  · exact .inr (mem_encodeBytes hc)
  · rename_i kept
    obtain rfl := List.mem_singleton.1 hc
    exact .inl ⟨hd, by simpa using kept⟩

theorem percentEncode_eq_self {must : Char → Bool} {s : List Char}
    (kept : ∀ c ∈ s, must c = false) : percentEncode must s = s := by
  induction s with
  | nil => rfl
  | cons c s ih =>
    have rest := ih fun d hd => kept d (List.mem_cons_of_mem _ hd)
    unfold percentEncode at rest ⊢
    rw [List.flatMap_cons, kept c List.mem_cons_self, rest]
    rfl

/-- Encoding leaves no character that it has to encode if percent signs, letters and digits stay. -/
theorem not_must_percentEncode {must : Char → Bool} (percent : must '%' = false)
    (alphanum : ∀ c : Char, c.isAlphanum = true → must c = false) {s : List Char} :
    ∀ c ∈ percentEncode must s, must c = false := by
  intro c hc
  rcases mem_percentEncode hc with ⟨-, kept⟩ | rfl | letter
  · exact kept
  · exact percent
  · exact alphanum c letter

theorem unmarked_percentEncode {must : Char → Bool}
    (controls : ∀ c, isControl c = true → must c = true) {s : List Char}
    (marks : ∀ c ∈ s, must c = false → c ≠ '#' ∧ c ≠ '?') : Unmarked (percentEncode must s) := by
  intro c hc
  rcases mem_percentEncode hc with ⟨member, kept⟩ | rfl | letter
  · obtain ⟨a, b⟩ := marks c member kept
    refine ⟨a, b, Nat.le_of_not_lt fun low => ?_⟩
    rw [controls c (by simp [isControl, low])] at kept
    contradiction
  · decide
  · obtain ⟨a, b, c, -⟩ := isAlphanum_inner letter
    exact ⟨a, b, by omega⟩

theorem unmarked_encodedPath (s : List Char) : Unmarked (percentEncode pathMust s) := by
  refine unmarked_percentEncode (fun c h => by simp [pathMust, fragmentMust, h]) ?_
  rintro c - kept
  constructor <;> (rintro rfl; revert kept; decide)

theorem unmarked_encodedUser (s : List Char) : Unmarked (percentEncode userMust s) := by
  refine unmarked_percentEncode (fun c h => by simp [userMust, pathMust, fragmentMust, h]) ?_
  rintro c - kept
  constructor <;> (rintro rfl; revert kept; decide)

theorem unmarked_encodedControls {s : List Char} (uncut : Uncut s) :
    Unmarked (percentEncode isControl s) := by
  refine unmarked_percentEncode (fun _ h => h) fun c member _ => ⟨?_, ?_⟩
  · rintro rfl
    exact uncut.1 member
  · rintro rfl
    exact uncut.2 member

theorem digitChar_inner : ∀ d < 17, Unmarked [Nat.digitChar d] := by
  decide

theorem unmarked_toDigits {b : Nat} (base : 1 < b) (n : Nat) : Unmarked (Nat.toDigits b n) := by
  have digit (d : Nat) : Unmarked [d.digitChar] := by
    by_cases small : d < 16
    · exact digitChar_inner d (by omega)
    · rw [Nat.digitChar_eq_star.2 (by omega)]
      decide
  induction n using Nat.strongRecOn with
  | ind n ih =>
    rw [Nat.toDigits_eq_if base]
    split
    · exact digit n
    · exact (ih (n / b) (Nat.div_lt_self (by omega) base)).append (digit _)

theorem unmarked_ipv6Text (groups : List Nat) : Unmarked (ipv6Text groups) := by
  have text (gs : List Nat) : Unmarked (join [':'] (gs.map groupText)) := by
    refine Unmarked.join (by decide) fun t ht => ?_
    obtain ⟨n, -, rfl⟩ := List.mem_map.1 ht
    exact unmarked_toDigits (by decide) n
  have closing : Unmarked [']'] := by decide
  unfold ipv6Text
  dsimp only
  split
  · exact .cons (by decide) ((text _).append closing)
  · exact .cons (by decide) ((text _).append (.cons (by decide) (.cons (by decide)
      ((text _).append closing))))

theorem unmarked_ipv6Host {s a : List Char} (h : ipv6Host s = .ok a) : Unmarked a := by
  unfold ipv6Host at h
  split at h
  · obtain rfl := Except.ok.inj h
    exact unmarked_ipv6Text _
  · cases h

theorem not_isForbidden_of_asciiName? {name ascii : List Char} (h : Domain.asciiName? name = some ascii) :
    ∀ c ∈ ascii, Domain.isForbidden c = false := by
  unfold Domain.asciiName? at h
  obtain ⟨_, -, h⟩ := Option.bind_eq_some_iff.1 h
  obtain ⟨_, -, h⟩ := Option.bind_eq_some_iff.1 h
  dsimp only at h
  split at h
  · cases h
  · rename_i allowed
    obtain rfl := Option.some.inj h
    simp only [Bool.or_eq_true, not_or, Bool.not_eq_true, List.any_eq_false] at allowed
    exact allowed.2

theorem unmarked_name {name ascii : List Char} (h : Domain.asciiName? name = some ascii) :
    Unmarked ascii := by
  intro c hc
  have other := not_isForbidden_of_asciiName? h c hc
  refine ⟨?_, ?_, Nat.le_of_not_lt fun low => ?_⟩
  · rintro rfl
    revert other
    decide
  · rintro rfl
    revert other
    decide
  · have control : c.toNat ≤ 0x20 := by omega
    simp [Domain.isForbidden, control] at other

theorem unmarked_webHost {s a : List Char} (h : webHost s = .ok a) : Unmarked a := by
  unfold webHost at h
  split at h
  · exact unmarked_ipv6Host h
  · split at h
    · cases h
    · cases h
    · rename_i name found
      split at h
      · split at h
        · obtain rfl := Except.ok.inj h
          refine Unmarked.join (by decide) fun t ht => ?_
          obtain ⟨n, -, rfl⟩ := List.mem_map.1 ht
          exact unmarked_toDigits (by decide) n
        · cases h
      · obtain rfl := Except.ok.inj h
        exact unmarked_name found

theorem unmarked_opaqueHost {s a : List Char} (uncut : Uncut s) (h : opaqueHost s = .ok a) :
    Unmarked a := by
  unfold opaqueHost at h
  split at h
  · exact unmarked_ipv6Host h
  · split at h
    · cases h
    · obtain rfl := Except.ok.inj h
      exact unmarked_encodedControls uncut

theorem unmarked_portText {scheme ds a : List Char} (h : portText scheme ds = .ok a) :
    Unmarked a := by
  unfold portText at h
  split at h
  · cases h
  · dsimp only at h
    split at h
    · cases h
    · split at h
      · obtain rfl := Except.ok.inj h
        exact .nil
      · obtain rfl := Except.ok.inj h
        exact .cons (by decide) (unmarked_toDigits (by decide) _)

theorem unmarked_userText (s : List Char) : Unmarked (userText s) := by
  have at' : Unmarked ['@'] := by decide
  have whole {name password : List Char} (hn : Unmarked name) (hp : Unmarked password) :
      Unmarked (if name = [] && password = [] then [] else name ++ password ++ ['@']) := by
    split
    · exact .nil
    · exact (hn.append hp).append at'
  unfold userText
  dsimp only
  refine whole (unmarked_encodedUser _) ?_
  split
  · exact .nil
  · exact .nil
  · exact .cons (by decide) (unmarked_encodedUser _)

theorem Uncut.sublist {s t : List Char} (h : Uncut s) (sub : t.Sublist s) : Uncut t :=
  ⟨fun member => h.1 (sub.subset member), fun member => h.2 (sub.subset member)⟩

theorem splitPort_sublist (inside : Bool) (s : List Char) : (splitPort inside s).1.Sublist s := by
  induction s generalizing inside with
  | nil => exact List.Sublist.refl _
  | cons c s ih =>
    rw [splitPort]
    split
    · exact List.nil_sublist _
    · exact (ih _).cons_cons c

theorem sublist_of_cutLast? {mark : Char} {s before rest : List Char}
    (h : cutLast? mark s = some (before, rest)) : rest.Sublist s := by
  induction s generalizing before with
  | nil => cases h
  | cons c s ih =>
    rw [cutLast?] at h
    split at h
    · rename_i found
      cases h
      exact List.Sublist.cons c (ih found)
    · split at h
      · cases h
        exact List.sublist_cons_self _ _
      · cases h

theorem host_sublist (s : List Char) : (Authority.ofText s).host.Sublist s := by
  unfold Authority.ofText
  cases found : cutLast? '@' s with
  | none => exact splitPort_sublist false s
  | some parts => exact (splitPort_sublist false parts.2).trans (sublist_of_cutLast? found)

theorem authority_eq_ok {a : Authority} {scheme text : List Char} {isLast : Bool}
    (h : a.text scheme isLast = .ok text) : ∃ host port,
      (if isWeb scheme then webHost a.host else opaqueHost a.host) = .ok host ∧
      (a.port.map (portText scheme)).getD (.ok []) = .ok port ∧
      text = (a.user.map userText).getD [] ++ host ++ port := by
  unfold Authority.text at h
  split at h
  · cases h
  · dsimp only at h
    split at h
    all_goals
      rename_i web
      obtain ⟨host, hh, h⟩ := Outcome.bind_eq_ok.1 h
      cases given : a.port
      all_goals
        rw [given] at h
        obtain ⟨port, hp, h⟩ := Outcome.bind_eq_ok.1 h
        exact ⟨host, port, by simpa [web] using hh, hp, (Outcome.pure_eq_ok.1 h).symm⟩

theorem unmarked_authority {s scheme a : List Char} {isLast : Bool} (uncut : Uncut s)
    (h : (Authority.ofText s).text scheme isLast = .ok a) : Unmarked a := by
  obtain ⟨host, port, hh, hp, rfl⟩ := authority_eq_ok h
  refine Unmarked.append (Unmarked.append ?_ ?_) ?_
  · cases (Authority.ofText s).user with
    | none => exact .nil
    | some user => exact unmarked_userText user
  · split at hh
    · exact unmarked_webHost hh
    · exact unmarked_opaqueHost (uncut.sublist (host_sublist s)) hh
  · cases given : (Authority.ofText s).port with
    | none =>
      rw [given] at hp
      cases hp
      exact .nil
    | some ds =>
      rw [given] at hp
      exact unmarked_portText hp

theorem unmarked_segmentsText (segments : List (List Char)) : Unmarked (segmentsText segments) := by
  intro c hc
  obtain ⟨segment, -, hc⟩ := List.mem_flatMap.1 hc
  exact Unmarked.cons (by decide) (unmarked_encodedPath segment) c hc

theorem unmarked_filePath (segments : List (List Char)) : Unmarked (filePath segments) :=
  .cons (by decide) ((unmarked_segmentsText segments).sublist (List.dropWhile_sublist _))

theorem unmarked_webParts {scheme s a p : List Char} (uncut : Uncut s)
    (h : webParts scheme s = .ok (a, p)) : Unmarked a ∧ Unmarked p := by
  obtain ⟨_, ha, h⟩ := Outcome.bind_eq_ok.1 h
  cases h
  have inside : (splitAuthority true (s.dropWhile isSlash)).1.Sublist s :=
    (List.takeWhile_sublist _).trans (List.dropWhile_sublist _)
  exact ⟨unmarked_authority (uncut.sublist inside) ha, unmarked_segmentsText _⟩

theorem unmarked_hostedFile {s a p : List Char} (h : hostedFile s = .ok (a, p)) :
    Unmarked a ∧ Unmarked p := by
  unfold hostedFile at h
  dsimp only at h
  split at h
  · cases h
    exact ⟨.nil, unmarked_filePath _⟩
  · split at h
    · cases h
      refine ⟨?_, unmarked_filePath _⟩
      split <;> exact .nil
    · obtain ⟨host, hh, h⟩ := Outcome.bind_eq_ok.1 h
      cases h
      refine ⟨?_, unmarked_filePath _⟩
      split
      · exact .nil
      · exact unmarked_webHost hh

theorem unmarked_fileParts {s a p : List Char} (h : fileParts s = .ok (a, p)) :
    Unmarked a ∧ Unmarked p := by
  unfold fileParts at h
  split at h
  · split at h
    · exact unmarked_hostedFile h
    · cases h
      exact ⟨.nil, unmarked_filePath _⟩
  · cases h
    exact ⟨.nil, unmarked_filePath _⟩
  · cases h
    exact ⟨.nil, unmarked_filePath _⟩

theorem unmarked_plainParts {scheme s p : List Char} {isLast : Bool} {a : Option (List Char)}
    (uncut : Uncut s) (h : plainParts scheme s isLast = .ok (a, p)) :
    (∀ x ∈ a, Unmarked x) ∧ Unmarked p := by
  unfold plainParts at h
  split at h
  · rename_i r
    obtain ⟨x, ha, h⟩ := Outcome.bind_eq_ok.1 h
    cases h
    have inside : (splitAuthority false r).1.Sublist ('/' :: '/' :: r) :=
      (List.takeWhile_sublist _).trans
        ((List.sublist_cons_self _ r).trans (List.sublist_cons_self _ _))
    refine ⟨?_, ?_⟩
    · rintro y ⟨⟩
      exact unmarked_authority (uncut.sublist inside) ha
    · split
      · exact .nil
      · exact unmarked_segmentsText _
  · cases h
    refine ⟨by simp, ?_⟩
    split
    · exact .cons (by decide) (.cons (by decide) (unmarked_segmentsText _))
    · exact unmarked_segmentsText _
  · cases h
    exact ⟨by simp, unmarked_encodedControls uncut⟩

/-- Neither host nor path of an address holds a mark or a control character. -/
theorem unmarked_parts {scheme s p : List Char} {isLast : Bool} {a : Option (List Char)}
    (uncut : Uncut s) (h : parts scheme s isLast = .ok (a, p)) :
    (∀ x ∈ a, Unmarked x) ∧ Unmarked p := by
  unfold parts at h
  split at h
  · obtain ⟨⟨x, y⟩, hw, h⟩ := Outcome.map_eq_ok.1 h
    cases h
    obtain ⟨ha, hp⟩ := unmarked_webParts uncut hw
    exact ⟨by rintro _ ⟨⟩; exact ha, hp⟩
  · split at h
    · obtain ⟨⟨x, y⟩, hf, h⟩ := Outcome.map_eq_ok.1 h
      cases h
      obtain ⟨ha, hp⟩ := unmarked_fileParts hf
      exact ⟨by rintro _ ⟨⟩; exact ha, hp⟩
    · exact unmarked_plainParts uncut h

end MapLayer.Url
