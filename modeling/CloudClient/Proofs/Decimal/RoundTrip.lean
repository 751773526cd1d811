import CloudClient.Proofs.Decimal.Shortest

/-!
# A written double is read back

The text of a finite double has its shortest digits, and the number that they are lies in the
interval of the double; the reader rounds it to that double again.

* `scale_of_holds`: the reader on a number in the interval of a double.
* `double?_text`: the round trip, in each layout.
* `mem_plain`, `mem_json`: what the text is made of.
-/

namespace CloudClient.Decimal

variable {x : Binary64}

/-! ## Reading -/

section Scale

variable {n : Nat} {e : Int}

theorem lt_zpow_of_holds (hx : x.isFinite = true) {y : ℚ} (h : x.Holds y) :
    y < 10 ^ (400 : Int) := by
  have hpower := Binary64.power_le hx
  calc y < 2 ^ (x.power + 53) := h.lt
    _ ≤ 2 ^ ((64 : Int) * 16) := zpow_le_zpow_right₀ one_le_two (by omega)
    _ ≤ 10 ^ ((25 : Int) * 16) := by
      rw [zpow_mul, zpow_mul]
      exact zpow_le_zpow_left₀ (by norm_num) (by positivity) (by norm_num)
    _ = 10 ^ (400 : Int) := by norm_num

theorem zpow_le_of_holds (hzero : x.isZero = false) {y : ℚ} (h : x.Holds y) :
    (10 : ℚ) ^ (-400 : Int) ≤ y := by
  have hpower := @Binary64.power_ge x
  have hpos : (1 : ℚ) ≤ x.significand := by exact_mod_cast significand_pos hzero
  have hbelow : x.below ≤ 1 / 2 := by
    unfold Binary64.below
    split <;> norm_num
  have htwo : (2 : ℚ) ^ ((43 : Int) * 25) ≤ 10 ^ ((16 : Int) * 25) := by
    rw [zpow_mul, zpow_mul]
    exact zpow_le_zpow_left₀ (by norm_num) (by positivity) (by norm_num)
  calc (10 : ℚ) ^ (-400 : Int) = 10 ^ (-((16 : Int) * 25)) := by norm_num
    _ ≤ 2 ^ (-((43 : Int) * 25)) := by
      rw [zpow_neg, zpow_neg]
      exact inv_anti₀ (by positivity) htwo
    _ = 2 ^ (-1 : Int) * 2 ^ (-1074 : Int) := by
      rw [← zpow_add₀ two_ne_zero]
      rfl
    _ ≤ (x.significand - x.below) * 2 ^ x.power := by
      refine mul_le_mul ?_ (zpow_le_zpow_right₀ one_le_two hpower) (by positivity) (by linarith)
      norm_num
      linarith
    _ ≤ y := h.bounds.1

/-- The number of digits tells the size of a number up to a factor of ten. -/
theorem digits_bounds (hn : n ≠ 0) (e : Int) :
    (10 : ℚ) ^ (e + (Nat.toDigits 10 n).length - 1) ≤ n * 10 ^ e ∧
      (n * 10 ^ e : ℚ) < 10 ^ (e + (Nat.toDigits 10 n).length) := by
  have hpow : (0 : ℚ) < 10 ^ e := zpow_pos (by norm_num) e
  obtain ⟨k, hk⟩ : ∃ k, (Nat.toDigits 10 n).length = k + 1 :=
    ⟨(Nat.toDigits 10 n).length - 1, by have h := @Nat.length_toDigits_pos 10 n; omega⟩
  have hhigh : n < 10 ^ (k + 1) :=
    (Nat.length_toDigits_le_iff (by norm_num) (by omega)).1 hk.le
  have hlow : 10 ^ k ≤ n := by
    by_cases h0 : k = 0
    · subst h0
      exact Nat.pos_of_ne_zero hn
    · by_contra hlt
      have hle := (Nat.length_toDigits_le_iff (b := 10) (by norm_num)
        (Nat.pos_of_ne_zero h0)).2 (not_le.1 hlt)
      omega
  rw [hk]
  constructor
  · have hexponent : e + ((k + 1 : Nat) : Int) - 1 = (k : Int) + e := by
      push_cast
      ring
    rw [hexponent, zpow_add₀ (by norm_num), zpow_natCast]
    exact mul_le_mul_of_nonneg_right (by exact_mod_cast hlow) hpow.le
  · rw [add_comm, zpow_add₀ (by norm_num), zpow_natCast]
    exact mul_lt_mul_of_pos_right (by exact_mod_cast hhigh) hpow

/-- The reader gives the double in whose interval a number lies. -/
theorem scale_of_holds (hx : x.isFinite = true) (hzero : x.isZero = false) (hn : n ≠ 0)
    (h : x.Holds (n * 10 ^ e)) : scale x.isNegative n e = x := by
  obtain ⟨hlow, hhigh⟩ := digits_bounds hn e
  have hten : (1 : ℚ) < 10 := by norm_num
  -- a double lies between the sizes at which the reader cuts off
  have hlarge : ¬ 400 < e + (Nat.toDigits 10 n).length := by
    intro hsize
    have hlt := hlow.trans_lt (lt_zpow_of_holds hx h)
    rw [zpow_lt_zpow_iff_right₀ hten] at hlt
    omega
  have hsmall : ¬ e + (Nat.toDigits 10 n).length < -400 := by
    intro hsize
    have hlt := (zpow_le_of_holds hzero h).trans_lt hhigh
    rw [zpow_lt_zpow_iff_right₀ hten] at hlt
    omega
  unfold scale
  dsimp only
  rw [if_neg hn, if_neg hlarge, if_neg hsmall]
  have hround {num den : Nat} (hnum : 0 < num) (hden : 0 < den)
      (hratio : (num / den : ℚ) = n * 10 ^ e) : Binary64.ofRatio x.isNegative num den = x := by
    rw [← hratio] at h
    rw [Binary64.ofRatio, Binary64.magnitudeBits_of_holds hx hnum hden h]
    exact Binary64.ofMagnitude_eq x
  have hpos := Nat.pos_of_ne_zero hn
  -- either way the quotient that is rounded is the number
  by_cases he : 0 ≤ e
  · rw [if_pos he, Nat.pow_eq]
    refine hround (Nat.mul_pos hpos (Nat.pow_pos (by norm_num))) Nat.one_pos ?_
    rw [zpow_of_nonneg 10 he]
    push_cast
    rw [div_one]
  · rw [if_neg he, Nat.pow_eq]
    refine hround hpos (Nat.pow_pos (by norm_num)) ?_
    rw [zpow_of_neg 10 (not_le.1 he)]
    push_cast
    rw [div_eq_mul_inv]

end Scale

/-! ## The round trip -/

theorem shortest_of_isZero (hzero : x.isZero = true) : shortest x = ⟨['0'], 1⟩ := by
  unfold shortest
  rw [if_pos hzero]

theorem shortest_digits (hx : x.isFinite = true) :
    (shortest x).digits ≠ [] ∧ ∀ c ∈ (shortest x).digits, c.isDigit = true := by
  by_cases hzero : x.isZero = true
  · rw [shortest_of_isZero hzero]
    exact ⟨by simp, by simp⟩
  · obtain ⟨hne, hdigits, -⟩ := holds_worth_shortest hx (Bool.eq_false_iff.2 hzero)
    exact ⟨hne, hdigits⟩

theorem toList_text (l : Layout) (hx : x.isFinite = true) :
    (l.text x).toList = (if x.isNegative then ['-'] else []) ++ l.body (shortest x) := by
  rw [l.text_eq hx, String.toList_ofList]

/-- The text of a finite double starts with a sign or a digit. -/
theorem exists_cons_text (l : Layout) (hx : x.isFinite = true) :
    ∃ c r, (l.text x).toList = c :: r ∧ (c = '-' ∨ c.isDigit = true) := by
  obtain ⟨hne, hdigits⟩ := shortest_digits hx
  obtain ⟨⟨c, cs, hbody, hc⟩, -⟩ := unsignedDouble?_body l x.isNegative hne hdigits
  rw [toList_text l hx, hbody]
  cases x.isNegative with
  | true => exact ⟨'-', _, rfl, .inl rfl⟩
  | false => exact ⟨c, cs, rfl, .inr hc⟩

theorem eq_of_mem_sign {negative : Bool} {c : Char} (h : c ∈ if negative then ['-'] else []) :
    c = '-' := by
  cases negative with
  | true => exact List.mem_singleton.1 h
  | false => cases h

/-- The text of a finite double has no other characters than digits, a point and a sign. -/
theorem mem_plain (hx : x.isFinite = true) {c : Char} (h : c ∈ (plain.text x).toList) :
    c.isDigit = true ∨ c = '.' ∨ c = '-' := by
  obtain ⟨hne, hdigits⟩ := shortest_digits hx
  rw [toList_text plain hx, List.mem_append] at h
  rcases h with h | h
  · exact .inr (.inr (eq_of_mem_sign h))
  · exact ((positionalText_digits false hne hdigits).2 c h).imp_right .inl

/-- In JSON text there may be an exponent as well. -/
theorem mem_json (hx : x.isFinite = true) {c : Char} (h : c ∈ (json.text x).toList) :
    c.isDigit = true ∨ c = '.' ∨ c = '-' ∨ c = '+' ∨ c = 'e' := by
  obtain ⟨hne, hdigits⟩ := shortest_digits hx
  rw [toList_text json hx, List.mem_append] at h
  rcases h with h | h
  · exact .inr (.inr (.inl (eq_of_mem_sign h)))
  · unfold Layout.body at h
    split at h
    · exact ((positionalText_digits true hne hdigits).2 c h).imp_right .inl
    · exact (exponentText_digits hne hdigits).2.2 c h

/-- A double in JSON text is told from an integer by its point or its exponent. -/
theorem marked_json (hx : x.isFinite = true) :
    '.' ∈ (json.text x).toList ∨ 'e' ∈ (json.text x).toList := by
  obtain ⟨hne, hdigits⟩ := shortest_digits hx
  have hbody : '.' ∈ json.body (shortest x) ∨ 'e' ∈ json.body (shortest x) := by
    unfold Layout.body
    split
    · exact .inl mem_positionalText
    · exact .inr (exponentText_digits hne hdigits).2.1
  rw [toList_text json hx]
  exact hbody.imp (List.mem_append_right _) (List.mem_append_right _)

theorem scale_zero (hzero : x.isZero = true) (e : Int) : scale x.isNegative 0 e = x := by
  unfold Binary64.isZero at hzero
  rw [Bool.and_eq_true, beq_iff_eq, beq_iff_eq] at hzero
  have h := Binary64.ofMagnitude_eq x
  rw [hzero.1, hzero.2] at h
  exact h

/-- Every finite double is read back, whichever layout it is written in. -/
theorem double?_text (l : Layout) (hx : x.isFinite = true) : double? (l.text x) = some x := by
  obtain ⟨hne, hdigits⟩ := shortest_digits hx
  obtain ⟨⟨c, cs, hbody, hc⟩, n, e, hread, hworth⟩ :=
    unsignedDouble?_body l x.isNegative hne hdigits
  rw [l.text_eq hx, hbody, double?_of_isDigit x.isNegative hc, ← hbody, hread]
  -- zero has no interval, but whatever its exponent it keeps its sign
  by_cases hzero : x.isZero = true
  · have hn : n = 0 := by
      rw [shortest_of_isZero hzero] at hworth
      have hten : (10 : ℚ) ^ e ≠ 0 := zpow_ne_zero e (by norm_num)
      have hvalue : (n : ℚ) * 10 ^ e = 0 := by
        rw [hworth]
        simp [Digits.worth, Nat.ofDigitChars_cons]
      exact_mod_cast (mul_eq_zero.1 hvalue).resolve_right hten
    rw [hn, scale_zero hzero]
  · have hzero' := Bool.eq_false_iff.2 hzero
    obtain ⟨-, -, hholds, hpos⟩ := holds_worth_shortest hx hzero'
    rw [← hworth] at hholds hpos
    have hn : n ≠ 0 := by
      rintro rfl
      simp at hpos
    rw [scale_of_holds hx hzero' hn hholds]

end CloudClient.Decimal
