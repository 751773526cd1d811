import CloudClient.Text.Utf8

/-!
# UTF-8 — every text is read back

The bytes of a text are read as the text.  A character of several bytes starts with a byte
that tells how many follow, and the bounds for the first of those leave out just the
numbers that have a shorter form or are no characters.

* `decode_encode`: the bytes of a text give the text.
-/

namespace CloudClient.Utf8

/-! ## First bytes -/

theorem follow?_two : ∀ k < 30, follow? (UInt8.ofNat (k + 2 + 192)) = some (1, 0x80, 0xBF) := by
  decide

theorem follow?_three : ∀ k < 16, follow? (UInt8.ofNat (k + 224)) =
    some (2, if k = 0 then 0xA0 else 0x80, if k = 13 then 0x9F else 0xBF) := by
  decide

theorem follow?_four : ∀ k < 5, follow? (UInt8.ofNat (k + 240)) =
    some (3, if k = 0 then 0x90 else 0x80, if k = 4 then 0x8F else 0xBF) := by
  decide

theorem toNat_byte {k : Nat} (h : k < 256) : (UInt8.ofNat k).toNat = k :=
  UInt8.toNat_ofNat_of_lt' h

theorem not_ascii_of_le {k : Nat} (h : 128 ≤ k) (hk : k < 256) : ¬ UInt8.ofNat k < 0x80 := by
  rw [UInt8.lt_iff_toNat_lt, toNat_byte hk]
  exact Nat.not_lt.2 h

/-! ## Bytes that continue a character -/

/-- The byte with six bits of a character's number. -/
def tailByte (v : Nat) : UInt8 := UInt8.ofNat (v % 64 + 128)

theorem toNat_tailByte (v : Nat) : (tailByte v).toNat = v % 64 + 128 :=
  toNat_byte (show v % 64 + 128 < 256 by omega)

theorem tailByte_bounds {low high : UInt8} {v : Nat} (hlow : low.toNat ≤ v % 64 + 128)
    (hhigh : v % 64 + 128 ≤ high.toNat) : (low ≤ tailByte v && tailByte v ≤ high) = true := by
  simp only [UInt8.le_iff_toNat_le, toNat_tailByte, hlow, hhigh, decide_true, Bool.and_self]

theorem tailByte_continues (v : Nat) : (0x80 ≤ tailByte v && tailByte v ≤ 0xBF) = true := by
  refine tailByte_bounds ?_ ?_
  · show 128 ≤ v % 64 + 128
    omega
  · show v % 64 + 128 ≤ 191
    omega

theorem taken_tail (vs : List Nat) (rest : List UInt8) :
    taken 0x80 0xBF vs.length (vs.map tailByte ++ rest) = vs.length := by
  induction vs with
  | nil => rfl
  | cons v vs ih =>
    rw [List.length_cons, List.map_cons, List.cons_append, taken, if_pos (tailByte_continues v),
      ih]
    omega

theorem taken_first {low high : UInt8} {v : Nat} (hlow : low.toNat ≤ v % 64 + 128)
    (hhigh : v % 64 + 128 ≤ high.toNat) (vs : List Nat) (rest : List UInt8) :
    taken low high (vs.length + 1) ((v :: vs).map tailByte ++ rest) = vs.length + 1 := by
  rw [List.map_cons, List.cons_append, taken, if_pos (tailByte_bounds hlow hhigh), taken_tail]
  omega

/-! ## Characters -/

/-- A character with bytes that continue it. -/
theorem decode_cons {lead : Nat} {low high : UInt8} (v : Nat) (vs : List Nat) {c : Char}
    {rest : List UInt8} (hlead : 128 ≤ lead) (hbyte : lead < 256)
    (hfollow : follow? (UInt8.ofNat lead) = some (vs.length + 1, low, high))
    (hlow : low.toNat ≤ v % 64 + 128) (hhigh : v % 64 + 128 ≤ high.toNat)
    (hc : (v :: vs).foldl (fun acc v => acc * 64 + v % 64)
      (lead % Nat.pow 2 (6 - (vs.length + 1))) = c.toNat) :
    decode (UInt8.ofNat lead :: ((v :: vs).map tailByte ++ rest)) = c :: decode rest := by
  have htaken := taken_first hlow hhigh vs rest
  have hlength : ((v :: vs).map tailByte).length = vs.length + 1 := by
    rw [List.length_map, List.length_cons]
  have htake : ((v :: vs).map tailByte ++ rest).take (vs.length + 1) = (v :: vs).map tailByte := by
    rw [← hlength, List.take_left]
  have hnumber : ((v :: vs).map tailByte).foldl (fun acc (b : UInt8) => acc * 64 + b.toNat % 64)
      (lead % Nat.pow 2 (6 - (vs.length + 1))) = c.toNat := by
    rw [List.foldl_map, ← hc]
    congr 1
    funext acc v
    rw [toNat_tailByte]
    omega
  rw [decode, charAt, if_neg (not_ascii_of_le hlead hbyte), hfollow]
  dsimp only
  rw [htaken, if_pos rfl, htake, toNat_byte hbyte, hnumber, Char.ofNat_toNat,
    ← hlength, List.drop_left]

/-- The bytes of a character are read as the character. -/
theorem decode_utf8EncodeChar (c : Char) (rest : List UInt8) :
    decode (String.utf8EncodeChar c ++ rest) = c :: decode rest := by
  have hvalid : c.toNat < 0xD800 ∨ 0xDFFF < c.toNat ∧ c.toNat < 0x110000 := c.valid
  unfold String.utf8EncodeChar
  dsimp only
  generalize hn : c.val.toNat = n
  have hc : c.toNat = n := hn
  rw [hc] at hvalid
  split
  · -- a byte of its own
    rename_i hone
    have hascii : UInt8.ofNat n < 0x80 := by
      rw [UInt8.lt_iff_toNat_lt, toNat_byte (by omega)]
      exact Nat.lt_succ_of_le hone
    rw [List.singleton_append, decode, charAt, if_pos hascii, toNat_byte (by omega), ← hc,
      Char.ofNat_toNat]
    rfl
  split
  · -- two bytes: the first tells at least 128
    rename_i hone htwo
    obtain ⟨k, hk⟩ : ∃ k, n / 64 % 32 = k + 2 := ⟨n / 64 % 32 - 2, by omega⟩
    rw [hk]
    apply decode_cons n [] (by omega) (by omega) (follow?_two k (by omega))
    · show 128 ≤ n % 64 + 128
      omega
    · show n % 64 + 128 ≤ 191
      omega
    · show (k + 2 + 192) % 32 * 64 + n % 64 = c.toNat
      omega
  split
  · -- three bytes: no short forms and no surrogates
    rename_i hone htwo hthree
    generalize hk : n / 4096 % 16 = k
    apply decode_cons (n / 64) [n] (by omega) (by omega)
      (follow?_three k (by omega))
    · by_cases hzero : k = 0
      · rw [if_pos hzero]
        show 160 ≤ n / 64 % 64 + 128
        omega
      · rw [if_neg hzero]
        show 128 ≤ n / 64 % 64 + 128
        omega
    · by_cases hlast : k = 13
      · rw [if_pos hlast]
        show n / 64 % 64 + 128 ≤ 159
        omega
      · rw [if_neg hlast]
        show n / 64 % 64 + 128 ≤ 191
        omega
    · show ((k + 224) % 16 * 64 + n / 64 % 64) * 64 + n % 64 = c.toNat
      omega
  · -- four bytes: no short forms and nothing beyond the last character
    rename_i hone htwo hthree
    generalize hk : n / 262144 % 8 = k
    apply decode_cons (n / 4096) [n / 64, n] (by omega) (by omega)
      (follow?_four k (by omega))
    · by_cases hzero : k = 0
      · rw [if_pos hzero]
        show 144 ≤ n / 4096 % 64 + 128
        omega
      · rw [if_neg hzero]
        show 128 ≤ n / 4096 % 64 + 128
        omega
    · by_cases hlast : k = 4
      · rw [if_pos hlast]
        show n / 4096 % 64 + 128 ≤ 143
        omega
      · rw [if_neg hlast]
        show n / 4096 % 64 + 128 ≤ 191
        omega
    · show (((k + 240) % 8 * 64 + n / 4096 % 64) * 64 + n / 64 % 64) * 64 + n % 64 = c.toNat
      omega

/-- The bytes of a text are read as the text. -/
theorem decode_encode (cs : List Char) : decode (encode cs) = cs := by
  induction cs with
  | nil => rw [encode, List.flatMap_nil, decode]
  | cons c cs ih =>
    rw [encode, List.flatMap_cons, decode_utf8EncodeChar]
    exact congrArg (c :: ·) ih

end CloudClient.Utf8
