import CloudClient.Proofs.Text.Split
import CloudClient.Proofs.Text.Utf8
import CloudClient.Url.Form

/-!
# Form encoding — names and values are read back

What is written never holds the signs that part names, values and pairs, and every byte is
read as it was: as itself, from `+` or from its two digits.

* `Form.decode_encode`: every list of names and values is read back.
-/

namespace CloudClient.Url

/-! ## Percent encoding -/

theorem hexDigit?_hexDigit : ∀ n < 16, Text.hexDigit? (hexDigit n) = some n := by
  decide

/-- The characters of a byte in percent encoding. -/
def isPercentChar (c : Char) : Bool :=
  c == '%' || ('0' ≤ c && c ≤ '9') || ('A' ≤ c && c ≤ 'F')

theorem isPercentChar_hexDigit : ∀ n < 16, isPercentChar (hexDigit n) = true := by
  decide

theorem isPercentChar_of_mem {b : UInt8} {c : Char} (h : c ∈ percentByte b) :
    isPercentChar c = true := by
  have hb : b.toNat < 256 := UInt8.toNat_lt b
  rcases List.mem_cons.1 h with rfl | h
  · rfl
  · rcases List.mem_cons.1 h with rfl | h
    · exact isPercentChar_hexDigit _ (by omega)
    · rw [List.mem_singleton.1 h]
      exact isPercentChar_hexDigit _ (by omega)

theorem percentDecode_percentByte (b : UInt8) (rest : List Char) :
    percentDecode (percentByte b ++ rest) = b :: percentDecode rest := by
  have hb : b.toNat < 256 := UInt8.toNat_lt b
  show percentDecode ('%' :: hexDigit (b.toNat / 16) :: hexDigit (b.toNat % 16) :: rest) = _
  rw [percentDecode, hexDigit?_hexDigit _ (by omega), hexDigit?_hexDigit _ (by omega)]
  dsimp only
  rw [Nat.div_add_mod' b.toNat 16, UInt8.ofNat_toNat]

theorem percentDecode_cons {c : Char} (h : c ≠ '%') (rest : List Char) :
    percentDecode (c :: rest) = String.utf8EncodeChar c ++ percentDecode rest := by
  rw [percentDecode]
  intro _ _ _ heq
  exact absurd heq h

namespace Form

/-! ## Names and values -/

/-- How a character of a name or value is taken: `+` for a blank. -/
def taken (c : Char) : Char := if c == '+' then ' ' else c

/-- Every byte that stands for itself is the byte of its character, which is no sign. -/
theorem plain_table : ∀ n < 256, isPlain (UInt8.ofNat n) = true →
    String.utf8EncodeChar (Char.ofNat n) = [UInt8.ofNat n] ∧ Char.ofNat n ≠ '%' ∧
      Char.ofNat n ≠ '+' ∧ Char.ofNat n ≠ '&' ∧ Char.ofNat n ≠ '=' := by
  decide +kernel

theorem plain_byte {b : UInt8} (h : isPlain b = true) :
    String.utf8EncodeChar (Char.ofNat b.toNat) = [b] ∧ Char.ofNat b.toNat ≠ '%' ∧
      Char.ofNat b.toNat ≠ '+' ∧ Char.ofNat b.toNat ≠ '&' ∧ Char.ofNat b.toNat ≠ '=' := by
  have hb := plain_table b.toNat (UInt8.toNat_lt b)
  rw [UInt8.ofNat_toNat] at hb
  exact hb h

theorem ne_of_isPercentChar {c x : Char} (h : isPercentChar c = true)
    (hx : isPercentChar x = false) : c ≠ x := by
  rintro rfl
  rw [h] at hx
  cases hx

theorem taken_percentByte (b : UInt8) : (percentByte b).map taken = percentByte b := by
  have hkept : ∀ c ∈ percentByte b, taken c = id c := by
    intro c hc
    have hne : c ≠ '+' := ne_of_isPercentChar (isPercentChar_of_mem hc) rfl
    exact if_neg (by simpa using hne)
  rw [List.map_congr_left hkept, List.map_id]

theorem percentDecode_encodeByte (b : UInt8) (rest : List Char) :
    percentDecode ((encodeByte b).map taken ++ rest) = b :: percentDecode rest := by
  unfold encodeByte
  -- a byte stands for itself, for a blank or in its two digits
  split
  · rename_i h
    obtain ⟨hbyte, hpercent, hplus, -, -⟩ := plain_byte h
    have htaken : taken (Char.ofNat b.toNat) = Char.ofNat b.toNat := if_neg (by simpa using hplus)
    rw [List.map_singleton, htaken, List.singleton_append, percentDecode_cons hpercent, hbyte]
    rfl
  · split
    · rename_i h
      rw [eq_of_beq h]
      exact percentDecode_cons (by decide) rest
    · rw [taken_percentByte, percentDecode_percentByte]

theorem percentDecode_encodePart (bs : List UInt8) :
    percentDecode ((bs.flatMap encodeByte).map taken) = bs := by
  induction bs with
  | nil => rfl
  | cons b bs ih =>
    rw [List.flatMap_cons, List.map_append, percentDecode_encodeByte, ih]

theorem decodePart_encodePart (s : String) : decodePart (encodePart s) = s := by
  have hbytes : percentDecode ((encodePart s).map taken) = Utf8.encode s.toList :=
    percentDecode_encodePart _
  show String.ofList (Utf8.decode (percentDecode ((encodePart s).map taken))) = s
  rw [hbytes, Utf8.decode_encode, String.ofList_toList]

theorem not_separator_of_mem_encodePart {s : String} {c : Char} (h : c ∈ encodePart s) :
    c ≠ '&' ∧ c ≠ '=' := by
  obtain ⟨b, -, hc⟩ := List.mem_flatMap.1 h
  unfold encodeByte at hc
  split at hc
  · rename_i hplain
    rw [List.mem_singleton.1 hc]
    exact (plain_byte hplain).2.2.2
  · split at hc
    · rw [List.mem_singleton.1 hc]
      decide
    · have hpercent := isPercentChar_of_mem hc
      exact ⟨ne_of_isPercentChar hpercent rfl, ne_of_isPercentChar hpercent rfl⟩

/-! ## Pairs -/

theorem decodePair_encodePair (pair : String × String) : decodePair (encodePair pair) = pair := by
  have hname : ∀ c ∈ encodePart pair.1, (c == '=') = false := fun c hc =>
    beq_false_of_ne (not_separator_of_mem_encodePart hc).2
  have hsplit : Text.splitOnce? (· == '=') (encodePair pair) =
      some (encodePart pair.1, encodePart pair.2) :=
    Text.splitOnce?_append hname rfl _
  rw [decodePair, hsplit]
  dsimp only
  rw [decodePart_encodePart, decodePart_encodePart]

theorem ne_of_mem_encodePair {pair : String × String} {c : Char} (h : c ∈ encodePair pair) :
    c ≠ '&' := by
  rcases List.mem_append.1 h with h | h
  · exact (not_separator_of_mem_encodePart h).1
  · rcases List.mem_cons.1 h with rfl | h
    · decide
    · exact (not_separator_of_mem_encodePart h).1

theorem toList_encode (pairs : List (String × String)) :
    (encode pairs).toList = ['&'].intercalate (pairs.map encodePair) := by
  have hpieces : (pairs.map fun p => String.ofList (encodePair p)).map String.toList =
      pairs.map encodePair := by
    rw [List.map_map]
    exact List.map_congr_left fun p _ => String.toList_ofList
  rw [encode, Text.join, String.toList_intercalate, hpieces]
  rfl

/-- Names and values are read as they were written. -/
theorem decode_encode (pairs : List (String × String)) : decode (encode pairs) = pairs := by
  rw [decode, toList_encode]
  cases pairs with
  | nil => rfl
  | cons pair rest =>
    have hpieces : ∀ piece ∈ (pair :: rest).map encodePair, ∀ c ∈ piece, (c == '&') = false := by
      intro piece hpiece c hc
      obtain ⟨p, -, rfl⟩ := List.mem_map.1 hpiece
      exact beq_false_of_ne (ne_of_mem_encodePair hc)
    have hkept : ((pair :: rest).map encodePair).filter (fun piece => !piece.isEmpty) =
        (pair :: rest).map encodePair := by
      refine List.filter_eq_self.2 fun piece hpiece => ?_
      obtain ⟨p, -, rfl⟩ := List.mem_map.1 hpiece
      simp [encodePair]
    -- no piece is empty, as each has its sign in it
    rw [Text.splitAll_intercalate rfl (by simp) hpieces, hkept, List.map_map]
    exact (List.map_congr_left fun p _ => decodePair_encodePair p).trans (List.map_id _)

end Form

end CloudClient.Url
