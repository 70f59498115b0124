import MapLayer.Proofs.Text.Cut
import MapLayer.Url.Host

/-! Hosts that are numbers. Main statements: the four bytes and the eight groups of an address are read from
the text that is written for them. -/

namespace MapLayer.Url

open MapLayer.Text

section Digits

variable {b n : ℕ} (base : 1 < b) (small : b ≤ 16)

theorem hexValue?_digitChar : ∀ d < 16, hexValue? d.digitChar = some d := by decide

include base small

theorem hexValue?_of_mem_toDigits {c : Char} (h : c ∈ Nat.toDigits b n) :
    ∃ d < b, hexValue? c = some d := by
  induction n using Nat.strongRecOn with
  | ind n ih =>
    rw [Nat.toDigits_eq_if base] at h
    split at h
    · rename_i less
      rw [List.mem_singleton.1 h]
      exact ⟨n, less, hexValue?_digitChar n (by omega)⟩
    · rcases List.mem_append.1 h with h | h
      · exact ih (n / b) (Nat.div_lt_self (by omega) base) h
      · rw [List.mem_singleton.1 h]
        have less : n % b < b := Nat.mod_lt n (by omega)
        exact ⟨n % b, less, hexValue?_digitChar _ (by omega)⟩

theorem valueIn_toDigits (n : ℕ) : valueIn b (Nat.toDigits b n) = n := by
  induction n using Nat.strongRecOn with
  | ind n ih =>
    rw [Nat.toDigits_eq_if base]
    split
    · simp [valueIn, hexValue?_digitChar n (by omega)]
    · have front := ih (n / b) (Nat.div_lt_self (by omega) base)
      have less : n % b < b := Nat.mod_lt n (by omega)
      unfold valueIn at front ⊢
      rw [List.foldl_append, front]
      simp [hexValue?_digitChar (n % b) (by omega), Nat.div_add_mod']

end Digits

theorem not_mem_toDigits {b n : ℕ} (base : 1 < b) (small : b ≤ 16) {c : Char} (other : hexValue? c = none) :
    c ∉ Nat.toDigits b n := by
  intro member
  obtain ⟨d, -, value⟩ := hexValue?_of_mem_toDigits base small member
  cases other.symm.trans value

/-- A number of two figures is below the product of what each is below. -/
theorem mul_add_lt {x y p q : ℕ} (hx : x < p) (hy : y < q) : x * q + y < p * q :=
  calc x * q + y < (x + 1) * q := by rw [Nat.add_mul]; omega
    _ ≤ p * q := Nat.mul_le_mul_right q hx

theorem valueIn_lt {b : ℕ} {ds : List Char} (digits : ∀ c ∈ ds, ∃ d < b, hexValue? c = some d) :
    valueIn b ds < b ^ ds.length := by
  induction ds using List.reverseRecOn with
  | nil => simp [valueIn]
  | append_singleton ds c ih =>
    have front := ih fun d hd => digits d (List.mem_append_left _ hd)
    obtain ⟨d, less, value⟩ := digits c (by simp)
    have step : valueIn b (ds ++ [c]) = valueIn b ds * b + d := by
      simp [valueIn, List.foldl_append, value]
    rw [step, List.length_append, List.length_singleton, Nat.pow_succ]
    exact mul_add_lt front less

theorem forall_of_mapM {α β : Type} {f : α → Option β} {P : β → Prop} (each : ∀ a v, f a = some v → P v)
    {as : List α} {vs : List β} (h : as.mapM f = some vs) : ∀ v ∈ vs, P v := by
  induction as generalizing vs with
  | nil =>
    cases h
    exact nofun
  | cons a as ih =>
    rw [List.mapM_cons] at h
    obtain ⟨v, first, h⟩ := Option.bind_eq_some_iff.1 h
    obtain ⟨rest, later, h⟩ := Option.bind_eq_some_iff.1 h
    cases h
    exact List.forall_mem_cons.2 ⟨each a v first, ih later⟩

theorem mapM_map_eq_some {α β : Type} {f : α → Option β} {g : β → α} {vs : List β}
    (each : ∀ v ∈ vs, f (g v) = some v) : (vs.map g).mapM f = some vs := by
  induction vs with
  | nil => rfl
  | cons v vs ih =>
    obtain ⟨first, each⟩ := List.forall_mem_cons.1 each
    rw [List.map_cons, List.mapM_cons, first, ih each]
    rfl

section Bytes

theorem ipv4Number?_digitsOf : ∀ n < 256, ipv4Number? (Decimal.digitsOf n) = some n := by decide +kernel

def bytesOf (n : ℕ) : List ℕ := [n / 0x1000000, n / 0x10000 % 256, n / 256 % 256, n % 256]

theorem pieces_ipv4Text (n : ℕ) : pieces '.' (ipv4Text n) = (bytesOf n).map Decimal.digitsOf := by
  refine pieces_join (by simp) fun t ht => ?_
  obtain ⟨m, -, rfl⟩ := List.mem_map.1 ht
  exact not_mem_toDigits (by decide) (by decide) (by decide)

theorem ipv4Value?_ipv4Text {n : ℕ} (bound : n < 256 ^ 4) : ipv4Value? (ipv4Text n) = some n := by
  have bytes : ∀ m ∈ bytesOf n, m < 256 := by
    simp only [bytesOf, List.mem_cons, List.not_mem_nil, or_false]
    rintro m (rfl | rfl | rfl | rfl) <;> omega
  have numbers : ((bytesOf n).map Decimal.digitsOf).mapM ipv4Number? = some (bytesOf n) :=
    mapM_map_eq_some fun m hm => ipv4Number?_digitsOf m (bytes m hm)
  have filled : ((bytesOf n).map Decimal.digitsOf).getLast? ≠ some [] := by
    simp [bytesOf, Decimal.digitsOf, Nat.toDigits_ne_nil]
  unfold ipv4Value?
  dsimp only
  rw [pieces_ipv4Text, if_neg filled, numbers]
  have whole : ((n / 0x1000000 * 256 + n / 0x10000 % 256) * 256 + n / 256 % 256) * 256 + n % 256 = n := by
    omega
  simp [bytesOf, whole]
  omega

theorem endsInNumber_ipv4Text (n : ℕ) : endsInNumber (ipv4Text n) = true := by
  have digits : ∀ c ∈ Decimal.digitsOf (n % 256), c.isDigit = true := fun c hc =>
    Nat.isDigit_of_mem_toDigits (by decide) (by decide) hc
  have filled : Decimal.digitsOf (n % 256) ≠ [] := Nat.toDigits_ne_nil
  unfold endsInNumber
  rw [pieces_ipv4Text]
  simp only [bytesOf, List.map_cons, List.map_nil, List.reverse_cons, List.reverse_nil, List.nil_append,
    List.cons_append]
  obtain ⟨c, rest, last⟩ := List.exists_cons_of_ne_nil filled
  rw [last] at digits ⊢
  simp [List.all_eq_true.2 digits]

theorem bytes_lt {bs : List ℕ} (bytes : ∀ b ∈ bs, b < 256) :
    bs.foldl (fun n part => n * 256 + part) 0 < 256 ^ bs.length := by
  induction bs using List.reverseRecOn with
  | nil => decide
  | append_singleton bs b ih =>
    rw [List.foldl_append, List.length_append, List.length_singleton, Nat.pow_succ]
    exact mul_add_lt (ih fun c hc => bytes c (List.mem_append_left _ hc)) (bytes b (by simp))

theorem ipv4Value?_lt {name : List Char} {n : ℕ} (h : ipv4Value? name = some n) : n < 256 ^ 4 := by
  unfold ipv4Value? at h
  dsimp only at h
  split at h
  · cases h
  · rename_i numbers _
    split at h
    · cases h
    · rename_i fits
      obtain rfl := Option.some.inj h
      simp only [Bool.or_eq_true, decide_eq_true_eq, List.any_eq_true, not_or, not_exists, not_and,
        Nat.not_lt, Nat.not_le] at fits
      obtain ⟨⟨few, bytes⟩, rest⟩ := fits
      have front : numbers.dropLast.length ≤ 4 := by
        rw [List.length_dropLast]
        omega
      have whole : 256 ^ numbers.dropLast.length * 256 ^ (4 - numbers.dropLast.length) = 256 ^ 4 := by
        rw [← Nat.pow_add, Nat.add_sub_of_le front]
      rw [← whole]
      exact mul_add_lt (bytes_lt fun b hb => Nat.lt_succ_of_le (bytes b hb)) rest

end Bytes

section Groups

theorem ipv6Group?_groupText {n : ℕ} (bound : n < 0x10000) : ipv6Group? (groupText n) = some n := by
  have short : (groupText n).length ≤ 4 := (Nat.length_toDigits_le_iff (by decide) (by decide)).2 bound
  have digits : (groupText n).all (fun c => (hexValue? c).isSome) = true := by
    refine List.all_eq_true.2 fun c hc => ?_
    obtain ⟨d, -, value⟩ := hexValue?_of_mem_toDigits (by decide) (by decide) hc
    rw [value]
    rfl
  have filled : groupText n ≠ [] := Nat.toDigits_ne_nil
  have value : valueIn 16 (groupText n) = n := valueIn_toDigits (by decide) (by decide) n
  simp [ipv6Group?, filled, short, digits, value]

theorem hexValue?_lt {c : Char} {d : ℕ} (h : hexValue? c = some d) : d < 16 := by
  have nine : c ≤ '9' → c.toNat ≤ 57 := id
  have lower : c ≤ 'f' → c.toNat ≤ 102 := id
  have upper : c ≤ 'F' → c.toNat ≤ 70 := id
  unfold hexValue? at h
  split at h
  · rename_i inside
    have := nine inside.2
    cases h
    omega
  · split at h
    · rename_i inside
      have := lower inside.2
      cases h
      omega
    · split at h
      · rename_i inside
        have := upper inside.2
        cases h
        omega
      · cases h

theorem ipv6Group?_lt {s : List Char} {n : ℕ} (h : ipv6Group? s = some n) : n < 0x10000 := by
  unfold ipv6Group? at h
  split at h
  · rename_i fits
    obtain rfl := Option.some.inj h
    simp only [Bool.and_eq_true, decide_eq_true_eq, List.all_eq_true] at fits
    obtain ⟨⟨-, short⟩, digits⟩ := fits
    have below := valueIn_lt (b := 16) fun c hc => by
      obtain ⟨d, value⟩ := Option.isSome_iff_exists.1 (digits c hc)
      exact ⟨d, hexValue?_lt value, value⟩
    exact below.trans_le (Nat.pow_le_pow_right (by decide) short)
  · cases h

theorem ipv6Tail?_lt {s : List Char} {ns : List ℕ} (h : ipv6Tail? s = some ns) : ∀ n ∈ ns, n < 0x10000 := by
  obtain ⟨numbers, read, h⟩ := Option.bind_eq_some_iff.1 h
  have bytes : ∀ n ∈ numbers, n < 256 := by
    refine forall_of_mapM (fun ds n h => ?_) read
    split at h
    · rename_i fits
      cases h
      simp only [Bool.and_eq_true, decide_eq_true_eq] at fits
      omega
    · cases h
  split at h
  · cases h
    simp only [List.forall_mem_cons] at bytes ⊢
    obtain ⟨a, b, c, d, -⟩ := bytes
    exact ⟨mul_add_lt a b, mul_add_lt c d, nofun⟩
  · cases h

theorem ipv6Groups?_lt {s : List Char} {ns : List ℕ} (h : ipv6Groups? s = some ns) :
    ∀ n ∈ ns, n < 0x10000 := by
  unfold ipv6Groups? at h
  split at h
  · cases h
    exact nofun
  · dsimp only at h
    split at h
    · obtain ⟨front, hf, h⟩ := Option.bind_eq_some_iff.1 h
      obtain ⟨back, hb, h⟩ := Option.bind_eq_some_iff.1 h
      cases h
      exact List.forall_mem_append.2 ⟨forall_of_mapM (fun _ _ => ipv6Group?_lt) hf, ipv6Tail?_lt hb⟩
    · exact forall_of_mapM (fun _ _ => ipv6Group?_lt) h

/-- The eight groups of an address. -/
structure AreGroups (groups : List ℕ) : Prop where
  length : groups.length = 8
  bounded : ∀ n ∈ groups, n < 0x10000

theorem areGroups_of_ipv6Value? {s : List Char} {groups : List ℕ} (h : ipv6Value? s = some groups) :
    AreGroups groups := by
  unfold ipv6Value? at h
  split at h
  · obtain ⟨gs, read, h⟩ := Option.bind_eq_some_iff.1 h
    split at h
    · rename_i length
      cases h
      exact ⟨length, ipv6Groups?_lt read⟩
    · cases h
  · obtain ⟨front, hf, h⟩ := Option.bind_eq_some_iff.1 h
    obtain ⟨back, hb, h⟩ := Option.bind_eq_some_iff.1 h
    split at h
    · cases h
    · rename_i fits
      cases h
      simp only [Bool.or_eq_true, decide_eq_true_eq, not_or, Nat.not_lt] at fits
      have gap : ∀ n ∈ List.replicate (8 - (front.length + back.length)) 0, n < 0x10000 := by
        intro n hn
        rw [List.eq_of_mem_replicate hn]
        decide
      refine ⟨?_, List.forall_mem_append.2 ⟨List.forall_mem_append.2 ⟨ipv6Groups?_lt hf, gap⟩,
        ipv6Groups?_lt hb⟩⟩
      rw [List.length_append, List.length_append, List.length_replicate]
      omega

/-- Groups with colons between them. -/
def groupsText (groups : List ℕ) : List Char := join [':'] (groups.map groupText)

theorem not_mem_groupText {n : ℕ} {c : Char} (other : hexValue? c = none) : c ∉ groupText n :=
  not_mem_toDigits (by decide) (by decide) other

theorem pieces_groupsText {groups : List ℕ} (filled : groups ≠ []) :
    pieces ':' (groupsText groups) = groups.map groupText := by
  refine pieces_join (by simpa using filled) fun t ht => ?_
  obtain ⟨n, -, rfl⟩ := List.mem_map.1 ht
  exact not_mem_groupText (by decide)

theorem not_mem_groupsText {groups : List ℕ} {c : Char} (other : hexValue? c = none) (colon : c ≠ ':') :
    c ∉ groupsText groups := by
  intro member
  rw [groupsText, join_eq_intercalate] at member
  rcases mem_intercalate member with member | ⟨t, ht, member⟩
  · exact colon (List.mem_singleton.1 member)
  · obtain ⟨n, -, rfl⟩ := List.mem_map.1 ht
    exact not_mem_groupText other member

theorem ipv6Groups?_groupsText {groups : List ℕ} (bounded : ∀ n ∈ groups, n < 0x10000) :
    ipv6Groups? (groupsText groups) = some groups := by
  by_cases filled : groups = []
  · rw [filled]
    rfl
  · have pieces := pieces_groupsText filled
    have text : groupsText groups ≠ [] := by
      intro empty
      rw [empty] at pieces
      cases groups with
      | nil => exact filled rfl
      | cons n groups =>
        exact (Nat.toDigits_ne_nil : groupText n ≠ []) (List.cons.inj pieces).1.symm
    have last : (((groups.map groupText).getLast?.getD []).contains '.') = false := by
      cases found : (groups.map groupText).getLast? with
      | none => rfl
      | some t =>
        obtain ⟨n, -, rfl⟩ := List.mem_map.1 (List.mem_of_getLast? found)
        simpa using (not_mem_groupText (by decide) : '.' ∉ groupText n)
    unfold ipv6Groups?
    dsimp only
    rw [if_neg text, pieces, last]
    exact mapM_map_eq_some fun n hn => ipv6Group?_groupText (bounded n hn)

/-- No group is empty, so that two colons do not follow each other nor end the text. -/
theorem groupsText_ne_append {groups : List ℕ} {b t : List Char} (doubled : t = [] ∨ ∃ r, t = ':' :: r) :
    groupsText groups ≠ b ++ ':' :: t := by
  intro split
  have filled : groups ≠ [] := by
    rintro rfl
    exact List.append_ne_nil_of_right_ne_nil b (List.cons_ne_nil ':' t) split.symm
  have empty : [] ∈ groups.map groupText := by
    rw [← pieces_groupsText filled, split, pieces_append]
    refine List.mem_append_right _ ?_
    rcases doubled with rfl | ⟨r, rfl⟩
    · exact List.mem_singleton_self _
    · rw [pieces, if_pos rfl]
      exact List.mem_cons_self
  obtain ⟨n, -, none⟩ := List.mem_map.1 empty
  exact (Nat.toDigits_ne_nil : groupText n ≠ []) none

theorem cut?_groupsText (groups : List ℕ) : cut? [':', ':'] (groupsText groups) = none :=
  cut?_eq_none_iff.2 fun b r split =>
    groupsText_ne_append (.inr ⟨r, rfl⟩) (show _ = b ++ ':' :: ':' :: r by simpa using split)

theorem cut?_groupsText_append (front back : List ℕ) :
    cut? [':', ':'] (groupsText front ++ ':' :: ':' :: groupsText back)
      = some (groupsText front, groupsText back) := by
  refine cut?_eq_some_iff.2 ⟨by simp, fun b r split => Nat.le_of_not_lt fun shorter => ?_⟩
  have split : groupsText front ++ ':' :: ':' :: groupsText back = b ++ ':' :: ':' :: r := by
    rw [split]
    simp
  rcases List.append_eq_append_iff.1 split with ⟨t, longer, -⟩ | ⟨t, text, behind⟩
  · rw [longer, List.length_append] at shorter
    omega
  · cases t with
    | nil =>
      rw [text, List.append_nil] at shorter
      omega
    | cons c t =>
      obtain ⟨rfl, later⟩ := List.cons.inj behind
      refine groupsText_ne_append ?_ text
      cases t with
      | nil => exact .inl rfl
      | cons d t => exact .inr ⟨t, by rw [(List.cons.inj later).1]⟩

/-- The place and the length of a run of zeros. -/
def IsRun (groups : List ℕ) (run : ℕ × ℕ) : Prop :=
  groups.take run.1 ++ List.replicate run.2 0 ++ groups.drop (run.1 + run.2) = groups

theorem isRun_zeros (groups : List ℕ) (i : ℕ) : IsRun groups (i, zeros (groups.drop i)) := by
  have zero : (groups.drop i).takeWhile (· == 0) = List.replicate (zeros (groups.drop i)) 0 := by
    refine List.eq_replicate_iff.2 ⟨rfl, fun n hn => ?_⟩
    simpa using List.all_eq_true.1 List.all_takeWhile n hn
  have split : groups.drop i
      = List.replicate (zeros (groups.drop i)) 0 ++ (groups.drop i).dropWhile (· == 0) := by
    rw [← zero, List.takeWhile_append_dropWhile]
  have behind : groups.drop (i + zeros (groups.drop i)) = (groups.drop i).dropWhile (· == 0) := by
    rw [← List.drop_drop]
    exact (congrArg (List.drop _) split).trans (List.drop_left' List.length_replicate)
  rw [IsRun, behind, List.append_assoc, ← split, List.take_append_drop]

theorem isRun_longestZeros (groups : List ℕ) : IsRun groups (longestZeros groups) := by
  refine List.foldlRecOn (motive := IsRun groups) _ _ (by simp [IsRun]) fun run found i _ => ?_
  dsimp only
  split
  · exact isRun_zeros groups i
  · exact found

theorem ipv6Value?_gap {front back : List ℕ} {length : ℕ} (pos : length ≠ 0)
    (h : AreGroups (front ++ List.replicate length 0 ++ back)) :
    ipv6Value? (groupsText front ++ ':' :: ':' :: groupsText back)
      = some (front ++ List.replicate length 0 ++ back) := by
  have read (groups : List ℕ) (part : ∀ n ∈ groups, n ∈ front ++ List.replicate length 0 ++ back) :
      ipv6Groups? (groupsText groups) = some groups :=
    ipv6Groups?_groupsText fun n hn => h.bounded n (part n hn)
  have before := read front fun n hn => List.mem_append_left _ (List.mem_append_left _ hn)
  have behind := read back fun n hn => List.mem_append_right _ hn
  have dotless : '.' ∉ groupsText front := not_mem_groupsText (by decide) (by decide)
  have eight := h.length
  rw [List.length_append, List.length_append, List.length_replicate] at eight
  have fits : ¬7 < front.length + back.length := by omega
  have missing : 8 - (front.length + back.length) = length := by omega
  rw [ipv6Value?, cut?_groupsText_append]
  simp [before, behind, dotless, fits, missing]

/-- The text of eight groups between its brackets is read as these groups. -/
theorem ipv6Value?_ipv6Text {groups : List ℕ} (h : AreGroups groups) : ∃ inner,
    ipv6Text groups = '[' :: (inner ++ [']']) ∧ ipv6Value? inner = some groups ∧
      ∀ c, hexValue? c = none → c ≠ ':' → c ∉ inner := by
  have run := isRun_longestZeros groups
  unfold ipv6Text
  dsimp only
  split
  · refine ⟨groupsText groups, rfl, ?_, fun c => not_mem_groupsText⟩
    rw [ipv6Value?, cut?_groupsText]
    simp [ipv6Groups?_groupsText h.bounded, h.length]
  · rename_i pos
    let front := groups.take (longestZeros groups).1
    let back := groups.drop ((longestZeros groups).1 + (longestZeros groups).2)
    refine ⟨groupsText front ++ ':' :: ':' :: groupsText back, ?_, ?_, fun c other colon => ?_⟩
    · rw [List.append_assoc]
      rfl
    · have read := ipv6Value?_gap pos (run.symm ▸ h)
      rwa [run] at read
    · simp [not_mem_groupsText other colon, colon]

end Groups

end MapLayer.Url
