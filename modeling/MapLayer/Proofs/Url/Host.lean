import MapLayer.Proofs.Url.Ascii
import MapLayer.Proofs.Url.Numeral
import MapLayer.Proofs.Url.Rooted

/-! Hosts as they are written. Main statements: a host whose characters are ASCII is read again as it is
written, and what is written around a host in an address does not hide it. -/

namespace MapLayer.Url

open MapLayer.Text MapLayer.Url.Domain

/-- Characters that mean something in the part of an address that names the host. -/
def hostMarks : List Char := ['/', '\\', '@', ':', '[', '%', '#', '?']

def IsName (host : List Char) : Prop := host ≠ [] ∧ ∀ c ∈ host, c ∉ hostMarks ∧ 0x20 < c.toNat

theorem IsName.not_mem {host : List Char} (plain : IsName host) {c : Char} (mark : c ∈ hostMarks) :
    c ∉ host := fun member => (plain.2 c member).1 mark

theorem cutLast?_of_not_mem {mark : Char} {s : List Char} (h : mark ∉ s) :
    cutLast? mark s = none := by
  induction s with
  | nil => rfl
  | cons c s ih =>
    rw [cutLast?, ih fun member => h (List.mem_cons_of_mem _ member), if_neg]
    rintro rfl
    exact h List.mem_cons_self

theorem cutLast?_append {mark : Char} {s : List Char} (h : mark ∉ s) (front : List Char) :
    cutLast? mark (front ++ mark :: s) = some (front, s) := by
  induction front with
  | nil => rw [List.nil_append, cutLast?, cutLast?_of_not_mem h, if_pos rfl]
  | cons c front ih => rw [List.cons_append, cutLast?, ih]

theorem splitPort_append {s : List Char} (colon : ':' ∉ s) (bracket : '[' ∉ s) (rest : List Char) :
    splitPort false (s ++ rest) = (s ++ (splitPort false rest).1, (splitPort false rest).2) := by
  induction s with
  | nil => rfl
  | cons c s ih =>
    have first : c ≠ ':' ∧ c ≠ '[' := by
      constructor <;> rintro rfl
      · exact colon List.mem_cons_self
      · exact bracket List.mem_cons_self
    have later := ih (fun member => colon (List.mem_cons_of_mem _ member))
      (fun member => bracket (List.mem_cons_of_mem _ member))
    simp [splitPort, first, later]

theorem splitPort_inside {s : List Char} (closing : ']' ∉ s) (rest : List Char) :
    splitPort true (s ++ ']' :: rest) = (s ++ ']' :: (splitPort false rest).1, (splitPort false rest).2) := by
  induction s with
  | nil => simp [splitPort]
  | cons c s ih =>
    have first : c ≠ ']' := by
      rintro rfl
      exact closing List.mem_cons_self
    have later := ih fun member => closing (List.mem_cons_of_mem _ member)
    simp [splitPort, first, later]

theorem percentDecode_of_not_mem {s : List Char} (h : '%' ∉ s) :
    percentDecode s = Utf8.encode s := by
  induction s with
  | nil => rfl
  | cons c s ih =>
    have other : c ≠ '%' := by
      rintro rfl
      exact h List.mem_cons_self
    rw [percentDecode_cons other, ih fun member => h (List.mem_cons_of_mem _ member)]
    rfl

section

variable {host name : List Char} (plain : IsName host)

include plain

theorem bracketed?_name : bracketed? host = none := by
  unfold bracketed?
  split
  · exact absurd List.mem_cons_self (plain.not_mem (by decide))
  · rfl

theorem decode_name : Utf8.decode (percentDecode host) = host := by
  rw [percentDecode_of_not_mem (plain.not_mem (by decide)), Utf8.decode_encode]

theorem webHost_name (ascii : asciiName? host = some name) (filled : name ≠ []) :
    webHost host = if endsInNumber name then
        (ipv4Value? name).elim (.error .invalidIpv4) fun n => .ok (ipv4Text n)
      else .ok name := by
  obtain ⟨c, rest, rfl⟩ := List.exists_cons_of_ne_nil filled
  rw [webHost, decode_name plain, ascii, bracketed?_name plain]
  dsimp only
  cases ipv4Value? (c :: rest) <;> rfl

theorem webHost_eq_ok (ascii : asciiName? host = some name) (filled : name ≠ [])
    (words : endsInNumber name = false) : webHost host = .ok name := by
  rw [webHost_name plain ascii filled, words]
  rfl

theorem webHost_eq_error (refused : asciiName? host = none) :
    webHost host = .error .invalidDomain := by
  rw [webHost, decode_name plain, refused, bracketed?_name plain]

end

/-- What a host in ASCII is written as: eight groups, four bytes, or a name that is no number. -/
theorem webHost_cases {s host : List Char} (h : webHost s = .ok host) :
    (∃ groups, AreGroups groups ∧ host = ipv6Text groups) ∨
    (∃ n < 256 ^ 4, host = ipv4Text n) ∨
    (host ≠ [] ∧ asciiName? (Utf8.decode (percentDecode s)) = some host ∧ endsInNumber host = false) := by
  unfold webHost at h
  split at h
  · unfold ipv6Host at h
    split at h
    · rename_i groups read
      cases h
      split at read
      · exact .inl ⟨groups, areGroups_of_ipv6Value? read, rfl⟩
      · cases read
    · cases h
  · split at h
    · cases h
    · cases h
    · rename_i name filled ascii
      split at h
      · split at h
        · rename_i n value
          cases h
          exact .inr (.inl ⟨n, ipv4Value?_lt value, rfl⟩)
        · cases h
      · rename_i words
        cases h
        exact .inr (.inr ⟨filled, ascii, by simpa using words⟩)

theorem isName_of_asciiName? {s name : List Char} (h : asciiName? s = some name) (filled : name ≠ []) :
    IsName name := by
  refine ⟨filled, fun c hc => ?_⟩
  have allowed := not_isForbidden_of_asciiName? h c hc
  have marks : ∀ mark ∈ hostMarks, isForbidden mark = true := by decide
  refine ⟨fun mark => ?_, Nat.lt_of_not_le fun low => ?_⟩
  · rw [marks c mark] at allowed
    cases allowed
  · simp [isForbidden, low] at allowed

theorem mem_ipv4Text {n : ℕ} {c : Char} (h : c ∈ ipv4Text n) : c = '.' ∨ c.isDigit = true := by
  rw [ipv4Text, join_eq_intercalate] at h
  rcases mem_intercalate h with h | ⟨t, ht, h⟩
  · exact .inl (List.mem_singleton.1 h)
  · obtain ⟨m, -, rfl⟩ := List.mem_map.1 ht
    exact .inr (Nat.isDigit_of_mem_toDigits (by decide) (by decide) h)

theorem isSmall_of_isDigit {c : Char} (h : c.isDigit = true) : IsSmall c := by
  have known : ∀ n < 0x7F, (Char.ofNat n).isDigit = true → IsSmall (Char.ofNat n) := by decide
  have digit := known c.toNat (isAlphanum_inner (by simp [Char.isAlphanum, h])).2.2.2
  rw [Char.ofNat_toNat] at digit
  exact digit h

theorem asciiName?_ipv4Text (n : ℕ) : asciiName? (ipv4Text n) = some (ipv4Text n) := by
  refine asciiName?_small (fun c hc => ?_) fun label hl => ?_
  · rcases mem_ipv4Text hc with rfl | digit
    · decide
    · exact isSmall_of_isDigit digit
  · rw [pieces_ipv4Text] at hl
    obtain ⟨m, -, rfl⟩ := List.mem_map.1 hl
    refine after?_eq_none_of_head? fun first => ?_
    have digit : 'x'.isDigit = true :=
      Nat.isDigit_of_mem_toDigits (by decide) (by decide) (List.mem_of_mem_head? first)
    revert digit
    decide

theorem ipv4Text_ne_nil (n : ℕ) : ipv4Text n ≠ [] := by
  intro empty
  have numbers := endsInNumber_ipv4Text n
  rw [empty] at numbers
  revert numbers
  decide

theorem webHost_ipv4Text {n : ℕ} (bound : n < 256 ^ 4) : webHost (ipv4Text n) = .ok (ipv4Text n) := by
  have ascii := asciiName?_ipv4Text n
  have filled := ipv4Text_ne_nil n
  rw [webHost_name (isName_of_asciiName? ascii filled) ascii filled, endsInNumber_ipv4Text,
    ipv4Value?_ipv4Text bound]
  rfl

theorem webHost_ipv6Text {groups : List ℕ} (h : AreGroups groups) :
    webHost (ipv6Text groups) = .ok (ipv6Text groups) := by
  obtain ⟨inner, text, value, -⟩ := ipv6Value?_ipv6Text h
  have again : ipv6Host (inner ++ [']']) = .ok ('[' :: (inner ++ [']'])) := by
    rw [ipv6Host, List.getLast?_concat, if_pos rfl, List.dropLast_concat, value, ← text]
  rw [text]
  exact again

/-- What a host in ASCII, escaped or not, is written as is read again as it is written. -/
theorem webHost_again {s host : List Char} (ascii : isAscii (Utf8.decode (percentDecode s)) = true)
    (h : webHost s = .ok host) : webHost host = .ok host := by
  rcases webHost_cases h with ⟨groups, known, rfl⟩ | ⟨n, bound, rfl⟩ | ⟨filled, name, words⟩
  · exact webHost_ipv6Text known
  · exact webHost_ipv4Text bound
  · exact webHost_eq_ok (isName_of_asciiName? name filled) (asciiName?_again ascii name) filled words

/-- A host with nothing in it that a port, a user or a path starts or ends at. -/
structure IsHost (host : List Char) : Prop where
  filled : host ≠ []
  slashless : ∀ c ∈ host, isSlash c = false
  single : '@' ∉ host
  closed : ∀ rest, splitPort false (host ++ rest) = (host ++ (splitPort false rest).1, (splitPort false rest).2)

theorem slashless_of_not_mem {s : List Char} (slash : '/' ∉ s) (backslash : '\\' ∉ s) :
    ∀ c ∈ s, isSlash c = false := by
  intro c hc
  simp only [isSlash, Bool.or_eq_false_iff, beq_eq_false_iff_ne]
  constructor <;> (rintro rfl; contradiction)

theorem IsName.isHost {host : List Char} (plain : IsName host) : IsHost host where
  filled := plain.1
  slashless := slashless_of_not_mem (plain.not_mem (by decide)) (plain.not_mem (by decide))
  single := plain.not_mem (by decide)
  closed := splitPort_append (plain.not_mem (by decide)) (plain.not_mem (by decide))

theorem isHost_ipv6Text {groups : List ℕ} (h : AreGroups groups) : IsHost (ipv6Text groups) := by
  obtain ⟨inner, text, -, others⟩ := ipv6Value?_ipv6Text h
  have absent (c : Char) (other : hexValue? c = none ∧ c ≠ ':' ∧ c ≠ '[' ∧ c ≠ ']') :
      c ∉ '[' :: (inner ++ [']']) := by
    obtain ⟨digit, colon, opening, closing⟩ := other
    simp [opening, closing, others c digit colon]
  rw [text]
  refine ⟨List.cons_ne_nil _ _, slashless_of_not_mem (absent _ (by decide)) (absent _ (by decide)),
    absent _ (by decide), fun rest => ?_⟩
  have inside := splitPort_inside (others ']' (by decide) (by decide)) rest
  simp [splitPort, inside]

theorem isHost_of_webHost {s host : List Char} (h : webHost s = .ok host) : IsHost host := by
  rcases webHost_cases h with ⟨groups, known, rfl⟩ | ⟨n, -, rfl⟩ | ⟨filled, name, -⟩
  · exact isHost_ipv6Text known
  · exact (isName_of_asciiName? (asciiName?_ipv4Text n) (ipv4Text_ne_nil n)).isHost
  · exact (isName_of_asciiName? name filled).isHost

/-- A character that may stand in a user as it is written. -/
def IsUserChar (c : Char) : Prop := c ≠ '@' ∧ isSlash c = false

theorem isUserChar_encodedUser {s : List Char} : ∀ c ∈ percentEncode userMust s, IsUserChar c := by
  have marks : ∀ mark ∈ ['@', '/', '\\'],
      userMust mark = true ∧ mark ≠ '%' ∧ mark.isAlphanum = false := by decide
  intro c hc
  have other : c ∉ ['@', '/', '\\'] := by
    intro mark
    obtain ⟨must, percent, sign⟩ := marks c mark
    rcases mem_percentEncode hc with ⟨-, kept⟩ | h | letter
    · cases must.symm.trans kept
    · exact percent h
    · cases sign.symm.trans letter
  simp only [List.mem_cons, List.not_mem_nil, or_false, not_or] at other
  exact ⟨other.1, by simp [isSlash, other.2]⟩

/-- A user is written in front of a sign that is not among its characters, if at all. -/
theorem userText_eq (s : List Char) : userText s = [] ∨
    ∃ user, userText s = user ++ ['@'] ∧ ∀ c ∈ user, IsUserChar c := by
  have whole {name password : List Char} (hn : ∀ c ∈ name, IsUserChar c)
      (hp : ∀ c ∈ password, IsUserChar c) :
      let text := if name = [] && password = [] then [] else name ++ password ++ ['@']
      text = [] ∨ ∃ user, text = user ++ ['@'] ∧ ∀ c ∈ user, IsUserChar c := by
    dsimp only
    split
    · exact .inl rfl
    · exact .inr ⟨name ++ password, rfl, List.forall_mem_append.2 ⟨hn, hp⟩⟩
  unfold userText
  dsimp only
  refine whole isUserChar_encodedUser ?_
  split
  · exact nofun
  · exact nofun
  · exact List.forall_mem_cons.2 ⟨by unfold IsUserChar; decide, isUserChar_encodedUser⟩

/-- A port as it is written behind a host, and what stands there behind a colon. -/
inductive IsPort : List Char → Option (List Char) → Prop
  | none : IsPort [] none
  | number {n : ℕ} (bound : n ≤ 65535) : IsPort (':' :: Decimal.digitsOf n) (some (Decimal.digitsOf n))

theorem isPort_of_portText {scheme ds port : List Char} (h : portText scheme ds = .ok port) :
    ∃ given, IsPort port given := by
  unfold portText at h
  split at h
  · cases h
  · dsimp only at h
    split at h
    · cases h
    · rename_i bound
      split at h
      · cases h
        exact ⟨_, .none⟩
      · cases h
        exact ⟨_, .number (Nat.le_of_not_lt bound)⟩

theorem portText_digitsOf {n : ℕ} (bound : n ≤ 65535) (scheme : List Char) :
    ∃ port, portText scheme (Decimal.digitsOf n) = .ok port := by
  have digits : (Decimal.digitsOf n).all Char.isDigit = true :=
    List.all_eq_true.2 fun c hc => Nat.isDigit_of_mem_toDigits (by decide) (by decide) hc
  have value : valueIn 10 (Decimal.digitsOf n) = n := valueIn_toDigits (by decide) (by decide) n
  have small : ¬65535 < n := Nat.not_lt.2 bound
  simp only [portText, digits, value, small, Bool.not_true, Bool.false_eq_true, if_false]
  split <;> exact ⟨_, rfl⟩

section

variable {host port : List Char} {given : Option (List Char)} (h : IsHost host) (p : IsPort port given)

include p

theorem splitPort_port : splitPort false port = ([], given) := by
  cases p <;> rfl

theorem backslashless_port : given.map (·.takeWhile (· != '\\')) = given ∧
    (given.getD []).dropWhile (· != '\\') = [] := by
  cases p with
  | none => exact ⟨rfl, rfl⟩
  | @number n bound =>
    have others : ∀ c ∈ Decimal.digitsOf n, (c != '\\') = true := by
      intro c hc
      rw [bne_iff_ne]
      rintro rfl
      exact not_mem_toDigits (by decide) (by decide) (by decide) hc
    exact ⟨congrArg some (List.takeWhile_eq_self_iff.2 others), List.dropWhile_eq_nil_iff.2 others⟩

theorem isUserChar_port : ∀ c ∈ port, IsUserChar c := by
  cases p with
  | none => exact nofun
  | number bound =>
    refine List.forall_mem_cons.2 ⟨by unfold IsUserChar; decide, fun c hc => ?_⟩
    have absent (mark : Char) (other : hexValue? mark = none) : c ≠ mark := by
      rintro rfl
      exact not_mem_toDigits (by decide) (by decide) other hc
    exact ⟨absent _ (by decide), by simp [isSlash, absent '/' (by decide), absent '\\' (by decide)]⟩

include h

theorem single_written : '@' ∉ host ++ port := by
  intro member
  rcases List.mem_append.1 member with member | member
  · exact h.single member
  · exact (isUserChar_port p _ member).1 rfl

theorem ofText_unnamed : Authority.ofText (host ++ port) = ⟨none, host, given, []⟩ := by
  obtain ⟨kept, behind⟩ := backslashless_port p
  unfold Authority.ofText
  rw [cutLast?_of_not_mem (single_written h p)]
  dsimp only
  rw [h.closed, splitPort_port p, List.append_nil, kept, behind]

theorem ofText_named (user : List Char) :
    Authority.ofText (user ++ '@' :: (host ++ port)) = ⟨some user, host, given, []⟩ := by
  obtain ⟨kept, behind⟩ := backslashless_port p
  unfold Authority.ofText
  rw [cutLast?_append (single_written h p)]
  dsimp only
  rw [h.closed, splitPort_port p, List.append_nil, kept, behind]

/-- A host is found between a user and a port. -/
theorem ofText_written (user : Option (List Char)) : ∃ user',
    Authority.ofText ((user.map userText).getD [] ++ host ++ port) = ⟨user', host, given, []⟩ := by
  cases user with
  | none => exact ⟨none, ofText_unnamed h p⟩
  | some s =>
    rcases userText_eq s with empty | ⟨user, text, -⟩
    · refine ⟨none, ?_⟩
      rw [Option.map_some, Option.getD_some, empty]
      exact ofText_unnamed h p
    · refine ⟨some user, ?_⟩
      rw [Option.map_some, Option.getD_some, text, List.append_assoc, List.append_assoc]
      exact ofText_named h p user

theorem text_written {scheme : List Char} (web : isWeb scheme = true) (user : Option (List Char)) :
    (∃ a, (⟨user, host, given, []⟩ : Authority).text scheme true = .ok a) ↔
      ∃ again, webHost host = .ok again := by
  have filled : ¬(host = [] && (⟨user, host, given, []⟩ : Authority).needsHost (isWeb scheme) true) = true := by
    simp [h.filled]
  unfold Authority.text
  rw [if_neg filled, if_pos web]
  cases webHost host with
  | error fault => exact ⟨nofun, nofun⟩
  | ok again =>
    refine ⟨fun _ => ⟨again, rfl⟩, fun _ => ?_⟩
    cases p with
    | none => exact ⟨_, rfl⟩
    | number bound =>
      obtain ⟨port, kept⟩ := portText_digitsOf bound scheme
      exact ⟨_, Outcome.bind_eq_ok.2 ⟨again, rfl, Outcome.bind_eq_ok.2 ⟨port, kept, rfl⟩⟩⟩

end

/-- What is written around the host of a web address does not hide it. -/
theorem authority_again {scheme s a : List Char} (web : isWeb scheme = true)
    (h : (Authority.ofText s).text scheme true = .ok a) : ∃ host,
      webHost (Authority.ofText s).host = .ok host ∧ a ≠ [] ∧ (∀ c ∈ a, isSlash c = false) ∧
      ((∃ b, (Authority.ofText a).text scheme true = .ok b) ↔ ∃ again, webHost host = .ok again) := by
  obtain ⟨host, port, hh, hp, rfl⟩ := authority_eq_ok h
  rw [if_pos web] at hh
  have written := isHost_of_webHost hh
  obtain ⟨given, number⟩ : ∃ given, IsPort port given := by
    cases known : (Authority.ofText s).port with
    | none =>
      rw [known] at hp
      cases hp
      exact ⟨_, .none⟩
    | some ds =>
      rw [known] at hp
      exact isPort_of_portText hp
  obtain ⟨user', found⟩ := ofText_written written number (Authority.ofText s).user
  refine ⟨host, hh, by simp [written.filled], ?_, ?_⟩
  · refine List.forall_mem_append.2 ⟨List.forall_mem_append.2 ⟨?_, written.slashless⟩,
      fun c hc => (isUserChar_port number c hc).2⟩
    cases (Authority.ofText s).user with
    | none => exact nofun
    | some user =>
      show ∀ c ∈ userText user, isSlash c = false
      rcases userText_eq user with empty | ⟨name, text, inner⟩
      · rw [empty]
        exact nofun
      · rw [text]
        exact List.forall_mem_append.2 ⟨fun c hc => (inner c hc).2, by decide⟩
  · rw [found]
    exact text_written written number web user'

theorem webParts_written {a p : List Char} (filled : a ≠ []) (slashless : ∀ c ∈ a, isSlash c = false)
    (start : p = [] ∨ ∃ rest, p = '/' :: rest) (scheme : List Char) :
    webParts scheme ('/' :: '/' :: (a ++ p)) = do
      return (← (Authority.ofText a).text scheme true, pathText (withSlashes p.tail)) := by
  obtain ⟨c, rest, rfl⟩ := List.exists_cons_of_ne_nil filled
  have slashes : ('/' :: '/' :: (c :: rest ++ p)).dropWhile isSlash = c :: rest ++ p := by
    rw [List.dropWhile_cons_of_pos (by decide), List.dropWhile_cons_of_pos (by decide), List.cons_append,
      List.dropWhile_cons_of_neg (by simp [slashless c List.mem_cons_self])]
  have inside : ∀ d ∈ c :: rest, (!(d == '/' || true && d == '\\')) = true := by
    intro d hd
    simpa [isSlash] using slashless d hd
  have split : splitAuthority true (c :: rest ++ p) = (c :: rest, p) := by
    unfold splitAuthority
    dsimp only
    rw [List.takeWhile_append_of_pos inside, List.dropWhile_append_of_pos inside]
    rcases start with rfl | ⟨q, rfl⟩ <;> simp
  rw [webParts, slashes, split]

end MapLayer.Url
