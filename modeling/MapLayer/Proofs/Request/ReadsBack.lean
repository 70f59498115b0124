import MapLayer.Proofs.Request.Template
import MapLayer.Proofs.Url.Host

/-! Addresses that read back. Main statements: a web address reads back exactly if its host does as it is
written, as it does if the host is ASCII as it is given, but for some names beyond ASCII whose ASCII form is
too long to be read. -/

namespace MapLayer.Url

open MapLayer.Text MapLayer.Url.Domain

/-- The host of a web address as it is given. -/
def givenHost (s : List Char) : List Char :=
  match scheme? (cleaned s) with
  | none => []
  | some (_, rest) =>
    let hierarchy := (cutAt '?' (cutAt '#' rest).1).1
    (Authority.ofText (splitAuthority true (hierarchy.dropWhile isSlash)).1).host

theorem authority_of_parse {s : List Char} {u : Url} (h : parse s = .ok u) (web : isWeb u.scheme = true) :
    ∃ given a, u.authority = some a ∧ (Authority.ofText given).text u.scheme true = .ok a ∧
      (Authority.ofText given).host = givenHost s ∧ Rooted u.path := by
  unfold parse at h
  split at h
  · cases h
  · rename_i scheme rest found
    have named : givenHost s = (Authority.ofText (splitAuthority true
        ((cutAt '?' (cutAt '#' rest).1).1.dropWhile isSlash)).1).host := by
      rw [givenHost, found]
    dsimp only at h
    obtain ⟨⟨authority, path⟩, hp, h⟩ := Outcome.bind_eq_ok.1 h
    cases h
    rw [parts, if_pos web] at hp
    obtain ⟨⟨a, p⟩, hw, hp⟩ := Outcome.map_eq_ok.1 hp
    cases hp
    have rooted := rooted_webParts hw
    obtain ⟨b, text, hw⟩ := Outcome.bind_eq_ok.1 hw
    cases hw
    exact ⟨_, a, rfl, text, named.symm, rooted⟩

theorem parts_name {host : List Char} (plain : IsName host) (isLast : Bool) :
    parts "http".toList ("//".toList ++ host ++ "/wms".toList) isLast
      = (webHost host).map fun name => (some name, "/wms".toList) := by
  have web : isWeb "http".toList = true := by decide
  have authority : Authority.ofText host = ⟨none, host, none, []⟩ := by
    simpa using ofText_unnamed plain.isHost .none
  have text : (⟨none, host, none, []⟩ : Authority).text "http".toList true = webHost host := by
    rw [Authority.text, if_neg (by simp [plain.1]), if_pos web]
    cases webHost host with
    | error fault => rfl
    | ok name => exact congrArg Except.ok (List.append_nil name)
  have path : pathText (withSlashes ('/' :: "wms".toList).tail) = "/wms".toList := by decide
  have split := webParts_written plain.1 plain.isHost.slashless (.inr ⟨"wms".toList, rfl⟩) "http".toList
  rw [authority, text, path] at split
  rw [parts, if_pos web]
  refine (congrArg _ split).trans ?_
  cases webHost host <;> rfl

def addressOn (host : List Char) : String :=
  String.ofList ("http:".toList ++ ("//".toList ++ host ++ "/wms".toList))

theorem isScheme_http : IsScheme "http".toList where
  letter := by
    intro c first
    obtain rfl : 'h' = c := Option.some.inj first
    rfl
  nonempty := by decide
  chars := by decide
  small := by decide

theorem parse_addressOn {host name : List Char} (plain : IsName host) (found : webHost host = .ok name) :
    parse (addressOn host).toList
      = .ok ⟨"http".toList, some name, "/wms".toList, none, none⟩ := by
  have chars : (addressOn host).toList
      = "http".toList ++ ':' :: ("//".toList ++ host ++ "/wms".toList) := String.toList_ofList
  have visible : ∀ c ∈ (addressOn host).toList, 0x20 < c.toNat := by
    have front : ∀ c ∈ "http://".toList, 0x20 < c.toNat := by decide
    have back : ∀ c ∈ "/wms".toList, 0x20 < c.toNat := by decide
    intro c hc
    have hc : c ∈ "http://".toList ++ (host ++ "/wms".toList) := by simpa [chars] using hc
    rcases List.mem_append.1 hc with hc | hc
    · exact front c hc
    · rcases List.mem_append.1 hc with hc | hc
      · exact (plain.2 c hc).2
      · exact back c hc
  have clean : cleaned (addressOn host).toList = (addressOn host).toList :=
    cleaned_eq_self (fun c hc => Nat.le_of_lt (visible c hc))
      (fun c hc => visible c (List.mem_of_mem_head? hc))
      (fun c hc => visible c (List.mem_of_mem_getLast? hc))
  have uncut : ∀ mark ∈ ['#', '?'], mark ∉ "//".toList ++ host ++ "/wms".toList := by
    have known : ∀ mark ∈ ['#', '?'], mark ∈ hostMarks ∧ mark ∉ "//".toList ∧ mark ∉ "/wms".toList := by
      decide
    intro mark hm member
    obtain ⟨isMark, front, back⟩ := known mark hm
    rcases List.mem_append.1 member with member | member
    · rcases List.mem_append.1 member with member | member
      · exact front member
      · exact plain.not_mem isMark member
    · exact back member
  rw [parse, clean, chars, isScheme_http.scheme?]
  dsimp only
  rw [cutAt_of_not_mem (uncut '#' (by decide))]
  dsimp only
  rw [cutAt_of_not_mem (uncut '?' (by decide))]
  dsimp only
  rw [parts_name plain, found]
  rfl

theorem isName_ideographs {name : List Char} (all : ∀ c ∈ name, isIdeograph c = true)
    (filled : name ≠ []) : IsName name := by
  have apart : ∀ mark ∈ hostMarks, isIdeograph mark = false := by decide
  refine ⟨filled, fun c hc => ⟨fun mark => ?_, ?_⟩⟩
  · have ideograph := all c hc
    rw [apart c mark] at ideograph
    cases ideograph
  · have := toNat_ideograph (all c hc)
    omega

theorem isName_form {form : List Char} (digits : ∀ c ∈ form, Punycode.IsDigit c) :
    IsName (asciiMark ++ form) := by
  have marked : ∀ c ∈ asciiMark, c ∉ hostMarks ∧ 0x20 < c.toNat := by decide
  have known : ∀ d < 36, Punycode.digit d ∉ hostMarks ∧ 0x20 < (Punycode.digit d).toNat := by decide
  refine ⟨by simp [asciiMark], fun c hc => ?_⟩
  rcases List.mem_append.1 hc with hc | hc
  · exact marked c hc
  · obtain ⟨d, bound, rfl⟩ := digits c hc
    exact known d bound

theorem endsInNumber_form {form : List Char} (digits : ∀ c ∈ form, Punycode.IsDigit c) :
    endsInNumber (asciiMark ++ form) = false := by
  have marked : '.' ∉ asciiMark := by decide
  have single : '.' ∉ asciiMark ++ form := by
    intro dot
    rcases List.mem_append.1 dot with dot | dot
    · exact marked dot
    · exact (ascii_of_isDigit (digits '.' dot)).2.2.1 rfl
  rw [endsInNumber, pieces_of_not_mem single]
  simp [asciiMark, ipv4Number?, hexValue?]

variable {name : List Char}

theorem parse_ideographs (all : ∀ c ∈ name, isIdeograph c = true) (filled : name ≠ [])
    (short : name.length ≤ maxLength) : parse (addressOn name).toList
      = .ok ⟨"http".toList, some (asciiMark ++ Punycode.encode name), "/wms".toList, none, none⟩ := by
  have plain := isName_ideographs all filled
  exact parse_addressOn plain (webHost_eq_ok plain (asciiName?_ideographs all filled short)
    (by simp [asciiMark]) (endsInNumber_form fun c => isDigit_of_mem_form all))

end MapLayer.Url

namespace MapLayer

open MapLayer.Text MapLayer.Url MapLayer.Url.Domain

variable {base : String} {u : Url}

/-- A web address reads back exactly if its host does. -/
theorem readsBack_iff_webHost (parsed : Url.parse base.toList = .ok u) (web : isWeb u.scheme = true) :
    ∃ host, webHost (givenHost base.toList) = .ok host ∧
      (ReadsBack base ↔ ∃ again, webHost host = .ok again) := by
  obtain ⟨given, a, authority, text, named, rooted⟩ := authority_of_parse parsed web
  obtain ⟨host, read, filled, slashless, again⟩ := authority_again web text
  refine ⟨host, named ▸ read, ?_⟩
  have hierarchy : u.hierarchy = '/' :: '/' :: (a ++ u.path) := by
    rw [hierarchy, authority]
    rfl
  rw [readsBack_iff parsed, hierarchy, parts, if_pos web, webParts_written filled slashless rooted.start,
    ← again]
  cases (Authority.ofText a).text u.scheme true with
  | error fault =>
    refine iff_of_false ?_ ?_ <;>
    · rintro ⟨_, h⟩
      cases h
  | ok b => exact iff_of_true ⟨_, rfl⟩ ⟨b, rfl⟩

/-- So every web address reads back whose host is ASCII once its escapes are resolved, be it a name or a number
and whatever stands around it. -/
theorem readsBack_of_isAscii (parsed : Url.parse base.toList = .ok u) (web : isWeb u.scheme = true)
    (ascii : isAscii (Utf8.decode (percentDecode (givenHost base.toList))) = true) : ReadsBack base := by
  obtain ⟨host, read, reads⟩ := readsBack_iff_webHost parsed web
  exact reads.2 ⟨host, webHost_again ascii read⟩

theorem readsBack_capitals : ReadsBack (addressOn "GIS.Example.org".toList) := by
  have plain : IsName "GIS.Example.org".toList := by
    unfold IsName
    decide
  have ascii := asciiName?_unmarked (s := "GIS.Example.org".toList) (by decide) (by decide) (by decide)
  exact readsBack_of_isAscii (parse_addressOn plain (webHost_eq_ok plain ascii (by decide) (by decide)))
    (by decide) (by decide +kernel)

/-- An address does not read back if the ASCII form of its name is too long. -/
theorem not_readsBack_ideographs {name : List Char} (all : ∀ c ∈ name, isIdeograph c = true)
    (filled : name ≠ []) (short : name.length ≤ maxLength)
    (long : maxAsciiLength < (Punycode.encode name).length) : ¬ReadsBack (addressOn name) := by
  have digits : ∀ c ∈ Punycode.encode name, Punycode.IsDigit c := fun c => isDigit_of_mem_form all
  have plain := isName_form digits
  have refused := webHost_eq_error plain (asciiName?_long digits long)
  rw [readsBack_iff (parse_ideographs all filled short)]
  rintro ⟨host, read⟩
  have again := parts_name plain false
  rw [refused] at again
  have whole := again.symm.trans read
  cases whole

def longName : List Char := (List.range 690).map fun i => Char.ofNat (0x20000 + 60 * i)

theorem toNat_longName : ∀ i < 690, (Char.ofNat (0x20000 + 60 * i)).toNat = 0x20000 + 60 * i := by
  decide +kernel

/-- These ideographs are not too many, but their ASCII form is too long. -/
theorem longName_spec : (∀ c ∈ longName, isIdeograph c = true) ∧ longName ≠ [] ∧
    longName.length ≤ maxLength ∧ maxAsciiLength < (Punycode.encode longName).length := by
  have length : longName.length = 690 := by rw [longName, List.length_map, List.length_range]
  have places : ∀ c ∈ longName, ∃ i < 690, c.toNat = 0x20000 + 60 * i := by
    intro c hc
    obtain ⟨i, hi, rfl⟩ := List.mem_map.1 hc
    have bound := List.mem_range.1 hi
    exact ⟨i, bound, toNat_longName i bound⟩
  have above : ∀ c ∈ longName, 0x80 + 59 ≤ c.toNat := by
    intro c hc
    obtain ⟨i, -, place⟩ := places c hc
    omega
  have rising : longName.Pairwise fun a b => a.toNat + 59 < b.toNat := by
    refine List.pairwise_map.2 (List.Pairwise.imp_of_mem ?_ List.pairwise_lt_range)
    intro i j hi hj less
    rw [toNat_longName i (List.mem_range.1 hi), toNat_longName j (List.mem_range.1 hj)]
    omega
  have far : 936 ≤ 59 * (15 + 1) := by decide
  have long := Punycode.length_encode_rising far above rising
  refine ⟨fun c hc => ?_, ?_, ?_, ?_⟩
  · obtain ⟨i, bound, place⟩ := places c hc
    simp only [isIdeograph, Bool.and_eq_true, decide_eq_true_eq]
    omega
  · rintro empty
    rw [empty] at length
    cases length
  · rw [length]
    decide
  · rw [length] at long
    have limit : maxAsciiLength = 2000 := rfl
    omega

end MapLayer
