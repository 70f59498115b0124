import MapLayer.Proofs.Text.Pieces
import MapLayer.Proofs.Text.Utf8
import MapLayer.Url.Form

/-! Pairs in queries. Main statement: the pairs of a query to which others were appended are its own and
then those, whatever their texts. -/

namespace MapLayer.Url

open MapLayer.Text

theorem hexValue?_hexDigit : ∀ n < 16, hexValue? (hexDigit n) = some n := by
  decide

theorem isAlphanum_hexDigit : ∀ n < 16, (hexDigit n).isAlphanum = true := by
  decide

theorem percentDecode_encodeByte {b : Nat} (byte : b < 256) (s : List Char) :
    percentDecode (encodeByte b ++ s) = b :: percentDecode s := by
  have high := hexValue?_hexDigit (b / 16) (by omega)
  have low := hexValue?_hexDigit (b % 16) (by omega)
  have whole : b / 16 * 16 + b % 16 = b := by omega
  simp [encodeByte, percentDecode, high, low, whole]

theorem percentDecode_encodeBytes {bs : List Nat} (bytes : ∀ b ∈ bs, b < 256) (s : List Char) :
    percentDecode (bs.flatMap encodeByte ++ s) = bs ++ percentDecode s := by
  induction bs with
  | nil => rfl
  | cons b bs ih =>
    rw [List.flatMap_cons, List.append_assoc, percentDecode_encodeByte (bytes b List.mem_cons_self),
      ih fun d hd => bytes d (List.mem_cons_of_mem _ hd), List.cons_append]

theorem percentDecode_cons {c : Char} (other : c ≠ '%') (s : List Char) :
    percentDecode (c :: s) = Utf8.encodeChar c ++ percentDecode s := by
  rw [percentDecode]
  rintro _ _ _ rfl
  exact absurd rfl other

theorem mem_encodeByte {b : Nat} (byte : b < 256) {c : Char} (h : c ∈ encodeByte b) :
    c = '%' ∨ c.isAlphanum = true := by
  simp only [encodeByte, List.mem_cons, List.not_mem_nil, or_false] at h
  rcases h with rfl | rfl | rfl
  · exact .inl rfl
  · exact .inr (isAlphanum_hexDigit _ (by omega))
  · exact .inr (isAlphanum_hexDigit _ (by omega))

theorem mem_encodeBytes {c d : Char} (h : d ∈ (Utf8.encodeChar c).flatMap encodeByte) :
    d = '%' ∨ d.isAlphanum = true := by
  obtain ⟨b, hb, hd⟩ := List.mem_flatMap.1 h
  exact mem_encodeByte (Utf8.encodeChar_lt hb) hd

namespace Form

theorem mem_encode {s : List Char} {c : Char} (h : c ∈ encode s) :
    isPlain c = true ∨ c = '+' ∨ c = '%' := by
  obtain ⟨d, -, hc⟩ := List.mem_flatMap.1 h
  unfold encodeChar at hc
  split at hc
  · rename_i plain
    rw [List.mem_singleton.1 hc]
    exact .inl plain
  · split at hc
    · exact .inr (.inl (List.mem_singleton.1 hc))
    · rcases mem_encodeBytes hc with rfl | alphanum
      · exact .inr (.inr rfl)
      · exact .inl (by simp [isPlain, alphanum])

def unplus (c : Char) : Char := if c = '+' then ' ' else c

theorem percentDecode_unplus (c : Char) (s : List Char) :
    percentDecode ((encodeChar c).map unplus ++ s) = Utf8.encodeChar c ++ percentDecode s := by
  unfold encodeChar
  split
  · rename_i plain
    have notPlus : c ≠ '+' := by
      rintro rfl
      revert plain
      decide
    have notPercent : c ≠ '%' := by
      rintro rfl
      revert plain
      decide
    simp [unplus, notPlus, percentDecode_cons notPercent]
  · split
    · rename_i space
      subst space
      rfl
    · have same : ((Utf8.encodeChar c).flatMap encodeByte).map unplus
          = (Utf8.encodeChar c).flatMap encodeByte := by
        refine (List.map_congr_left fun d hd => ?_).trans (List.map_id' _)
        refine if_neg ?_
        rintro rfl
        rcases mem_encodeBytes hd with h | h
        · contradiction
        · revert h
          decide
      rw [same, percentDecode_encodeBytes fun b => Utf8.encodeChar_lt]

theorem decode_encode (s : List Char) : decode (encode s) = s := by
  have bytes : percentDecode ((encode s).map unplus) = Utf8.encode s := by
    induction s with
    | nil => rfl
    | cons c s ih =>
      rw [encode, List.flatMap_cons, List.map_append, percentDecode_unplus]
      exact congrArg (Utf8.encodeChar c ++ ·) ih
  rw [decode]
  exact (congrArg Utf8.decode bytes).trans (Utf8.decode_encode s)

theorem decodePair_encodePair (pair : String × String) : decodePair (encodePair pair) = pair := by
  have unmarked : '=' ∉ encode pair.1.toList := by
    intro member
    rcases mem_encode member with h | h | h <;> (revert h; decide)
  rw [decodePair, encodePair, cut?_append unmarked]
  simp [decode_encode]

theorem pairs_joined (query rest : List Char) :
    pairs (query ++ '&' :: rest) = pairs query ++ pairs rest := by
  rw [pairs, pieces_append, List.filter_append, List.map_append]
  rfl

theorem pairs_encodePair (pair : String × String) : pairs (encodePair pair) = [pair] := by
  have unmarked : '&' ∉ encodePair pair := by
    intro member
    rcases List.mem_append.1 member with member | member
    · rcases mem_encode member with h | h | h <;> (revert h; decide)
    · rcases List.mem_cons.1 member with h | member
      · revert h
        decide
      · rcases mem_encode member with h | h | h <;> (revert h; decide)
  have filled : encodePair pair ≠ [] := by simp [encodePair]
  rw [pairs, pieces_of_not_mem unmarked, List.filter_cons_of_pos (by simpa using filled),
    List.filter_nil, List.map_singleton, decodePair_encodePair]

theorem pairs_append (query : List Char) (pair : String × String) :
    pairs (append query pair) = pairs query ++ [pair] := by
  unfold append
  split
  · rename_i blank
    subst blank
    exact pairs_encodePair pair
  · rw [List.append_assoc, List.singleton_append, pairs_joined, pairs_encodePair]

theorem pairs_appendAll (query : List Char) (added : List (String × String)) :
    pairs (appendAll query added) = pairs query ++ added := by
  unfold appendAll
  induction added generalizing query with
  | nil => simp
  | cons pair added ih => rw [List.foldl_cons, ih, pairs_append, List.append_assoc,
      List.singleton_append]

end Form

end MapLayer.Url
