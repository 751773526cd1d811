import CloudClient.Binary64
import Mathlib.Algebra.Order.Field.Power
import Mathlib.Data.Rat.Defs
import Mathlib.Tactic.FieldSimp
import Mathlib.Tactic.Linarith
import Mathlib.Tactic.NormNum
import Mathlib.Tactic.Positivity
import Mathlib.Tactic.Ring

/-!
# Rounding to a double

Every quotient that lies nearer to a double than to any other is rounded to it.

* `Binary64.Holds` is the interval of numbers that round to a double.
* `Binary64.magnitudeBits_of_holds`: the numbers in it do.
* `Binary64.isFinite_ofInt`: no integer of 64 bits is rounded to infinity.
-/

namespace CloudClient

/-! ## Powers and quotients -/

section Powers

variable {num den : Nat}

theorem zpow_of_nonneg (base : ℚ) {g : Int} (hg : 0 ≤ g) : base ^ g = base ^ g.toNat := by
  rw [← zpow_natCast, Int.toNat_of_nonneg hg]

theorem zpow_of_neg (base : ℚ) {g : Int} (hg : g < 0) :
    base ^ g = (base ^ (-g).toNat)⁻¹ := by
  rw [← zpow_natCast, Int.toNat_of_nonneg (by omega), zpow_neg, inv_inv]

theorem decide_zpow_le (hden : 0 < den) {base : Nat} (hbase : 0 < base) (g : Int) :
    (if 0 ≤ g then decide (den * Nat.pow base g.toNat ≤ num)
      else decide (den ≤ num * Nat.pow base (-g).toNat)) =
        decide ((base : ℚ) ^ g ≤ num / den) := by
  have hden' : (0 : ℚ) < den := by exact_mod_cast hden
  by_cases hg : 0 ≤ g
  · rw [if_pos hg, decide_eq_decide, zpow_of_nonneg _ hg, le_div_iff₀ hden', mul_comm]
    norm_cast
  · have hpow : (0 : ℚ) < (base : ℚ) ^ (-g).toNat := by positivity
    rw [if_neg hg, decide_eq_decide, zpow_of_neg _ (by omega), le_div_iff₀ hden',
      inv_mul_le_iff₀ hpow, mul_comm]
    norm_cast

/-- The binary logarithms of a quotient's parts tell its size up to a factor of two. -/
theorem ratio_bounds (hnum : 0 < num) (hden : 0 < den) :
    (2 : ℚ) ^ ((Nat.log2 num : Int) - Nat.log2 den - 1) < num / den ∧
      (num / den : ℚ) < 2 ^ ((Nat.log2 num : Int) - Nat.log2 den + 1) := by
  have hpow (k : Nat) : (0 : ℚ) < 2 ^ k := by positivity
  have hnumLow : (2 : ℚ) ^ Nat.log2 num ≤ num := by
    exact_mod_cast Nat.log2_self_le hnum.ne'
  have hnumHigh : (num : ℚ) < 2 ^ (Nat.log2 num + 1) := by exact_mod_cast Nat.lt_log2_self
  have hdenLow : (2 : ℚ) ^ Nat.log2 den ≤ den := by
    exact_mod_cast Nat.log2_self_le hden.ne'
  have hdenHigh : (den : ℚ) < 2 ^ (Nat.log2 den + 1) := by exact_mod_cast Nat.lt_log2_self
  have hden' : (0 : ℚ) < den := by exact_mod_cast hden
  constructor
  · have hsplit : ((Nat.log2 num : Int) - Nat.log2 den - 1) =
        (Nat.log2 num : Int) - ((Nat.log2 den + 1 : Nat) : Int) := by
      push_cast
      ring
    rw [hsplit, zpow_sub₀ two_ne_zero, zpow_natCast, zpow_natCast,
      div_lt_div_iff₀ (hpow _) hden']
    exact mul_lt_mul' hnumLow hdenHigh hden'.le (by exact_mod_cast hnum)
  · have hsplit : ((Nat.log2 num : Int) - Nat.log2 den + 1) =
        ((Nat.log2 num + 1 : Nat) : Int) - (Nat.log2 den : Int) := by
      push_cast
      ring
    rw [hsplit, zpow_sub₀ two_ne_zero, zpow_natCast, zpow_natCast,
      div_lt_div_iff₀ hden' (hpow _)]
    exact mul_lt_mul hnumHigh hdenLow (hpow _) (hpow _).le

end Powers

namespace Binary64

/-! ## Rounding to an integer -/

/-- The integer nearest to a number, a tie to the even one. -/
def Nearest (y : ℚ) (m : Nat) : Prop :=
  (m : ℚ) - 1 / 2 ≤ y ∧ y ≤ m + 1 / 2 ∧ (y = m - 1 / 2 ∨ y = m + 1 / 2 → m % 2 = 0)

/-- A number within half a unit of a quotient is next to its floor. -/
theorem eq_div_or_eq_div_succ {a b m : Nat} (hlow : 2 * (m * b) ≤ 2 * a + b)
    (hhigh : 2 * a ≤ 2 * (m * b) + b) (hb : 0 < b) : m = a / b ∨ m = a / b + 1 := by
  have hdivide : b * (a / b) + a % b = a := Nat.div_add_mod a b
  have hrest : a % b < b := Nat.mod_lt a hb
  have hmul (k : Nat) : b * k = k * b := Nat.mul_comm b k
  have hle : a / b ≤ m := by
    by_contra hlt
    have hmb : (m + 1) * b ≤ a / b * b := Nat.mul_le_mul_right b (by omega)
    rw [Nat.add_mul, Nat.one_mul, ← hmul (a / b)] at hmb
    omega
  have hge : m ≤ a / b + 1 := by
    by_contra hlt
    have hmb : (a / b + 2) * b ≤ m * b := Nat.mul_le_mul_right b (by omega)
    rw [Nat.add_mul, ← hmul (a / b)] at hmb
    omega
  omega

theorem roundHalfEven_of_nearest {a b m : Nat} (hb : 0 < b) (h : Nearest (a / b) m) :
    roundHalfEven a b = m := by
  obtain ⟨hlow, hhigh, htie⟩ := h
  have hb' : (0 : ℚ) < b := by exact_mod_cast hb
  -- the three facts without a quotient
  have hlow' : 2 * (m * b) ≤ 2 * a + b := by
    rw [le_div_iff₀ hb'] at hlow
    have h : (2 * (m * b) : ℚ) ≤ 2 * a + b := by linarith
    exact_mod_cast h
  have hhigh' : 2 * a ≤ 2 * (m * b) + b := by
    rw [div_le_iff₀ hb'] at hhigh
    have h : (2 * a : ℚ) ≤ 2 * (m * b) + b := by linarith
    exact_mod_cast h
  have htie' (h : 2 * (m * b) = 2 * a + b ∨ 2 * a = 2 * (m * b) + b) : m % 2 = 0 := by
    refine htie (h.imp (fun h => ?_) fun h => ?_)
    · rw [div_eq_iff hb'.ne']
      have h' : (2 * (m * b) : ℚ) = 2 * a + b := by exact_mod_cast h
      linarith
    · rw [div_eq_iff hb'.ne']
      have h' : (2 * a : ℚ) = 2 * (m * b) + b := by exact_mod_cast h
      linarith
  have hdivide : b * (a / b) + a % b = a := Nat.div_add_mod a b
  have hrest : a % b < b := Nat.mod_lt a hb
  unfold roundHalfEven
  dsimp only
  rcases eq_div_or_eq_div_succ hlow' hhigh' hb with hm | hm
  · -- rounded down: the rest is at most half of `b`, and half only if `m` is even
    rw [← hm] at hdivide ⊢
    rw [Nat.mul_comm] at hdivide
    by_cases hless : 2 * (a % b) < b
    · rw [if_pos hless]
    · have heven := htie' (.inr (by omega))
      rw [if_neg hless, if_neg (by omega), if_pos heven]
  · -- rounded up: the rest is at least half of `b`, and half only if `m` is even
    have hmb : m * b = b * (a / b) + b := by
      rw [hm, Nat.add_mul, Nat.one_mul, Nat.mul_comm]
    by_cases hless : 2 * (a % b) < b
    · omega
    · rw [if_neg hless]
      by_cases hmore : b < 2 * (a % b)
      · rw [if_pos hmore, hm]
      · have heven := htie' (.inl (by omega))
        rw [if_neg hmore, if_neg (by omega), hm]

/-! ## Rounding a quotient -/

section Quotient

variable {num den : Nat} (hnum : 0 < num) (hden : 0 < den)
include hnum hden

/-- The exponent of the last digit of a rounded quotient: its leading digit is 52 places
above, unless there are no doubles so small. -/
theorem max_log {q : Int} (hq : -1074 ≤ q)
    (hlow : q = -1074 ∨ (2 : ℚ) ^ (q + 52) ≤ num / den)
    (hhigh : (num / den : ℚ) < 2 ^ (q + 53)) :
    let guess : Int := (Nat.log2 num : Int) - Nat.log2 den
    let reached :=
      if 0 ≤ guess then decide (den * Nat.pow 2 guess.toNat ≤ num)
      else decide (den ≤ num * Nat.pow 2 (-guess).toNat)
    Max.max ((if reached then guess else guess - 1) - 52) (-1074) = q := by
  intro guess reached
  obtain ⟨hover, hunder⟩ := ratio_bounds hnum hden
  have hlt {a b : Int} (ha : (2 : ℚ) ^ a ≤ num / den) (hb : (num / den : ℚ) < 2 ^ b) :
      a < b :=
    (zpow_lt_zpow_iff_right₀ one_lt_two).1 (ha.trans_lt hb)
  have hreached : reached = decide ((2 : ℚ) ^ guess ≤ num / den) := by
    have h := @decide_zpow_le num den hden 2 two_pos guess
    exact h
  -- the guess is too large by one, or the logarithm
  obtain ⟨log, hlog, hlogLow, hlogHigh⟩ :
      ∃ log, log = (if reached then guess else guess - 1) ∧ (2 : ℚ) ^ log ≤ num / den ∧
        (num / den : ℚ) < 2 ^ (log + 1) := by
    refine ⟨_, rfl, ?_⟩
    rw [hreached]
    by_cases h : (2 : ℚ) ^ guess ≤ num / den
    · rw [if_pos (decide_eq_true h)]
      exact ⟨h, hunder⟩
    · rw [if_neg (by simpa using h), Int.sub_add_cancel]
      exact ⟨hover.le, not_le.1 h⟩
  rw [← hlog]
  have hle := hlt hlogLow hhigh
  rcases hlow with rfl | hlow
  · omega
  · have hge := hlt hlow hlogHigh
    omega

/-- A quotient is rounded to the nearest multiple of a power of two. -/
theorem magnitudeBits_of_nearest {q : Int} {m : Nat} (hq : -1074 ≤ q)
    (hlow : q = -1074 ∨ (2 : ℚ) ^ (q + 52) ≤ num / den)
    (hhigh : (num / den : ℚ) < 2 ^ (q + 53)) (hm : Nearest (num / den / 2 ^ q) m) :
    magnitudeBits num den = Min.min infinityBits ((q + 1074).toNat * Nat.pow 2 52 + m) := by
  have hlog := max_log hnum hden hq hlow hhigh
  have hround : (if 0 ≤ q then roundHalfEven num (den * Nat.pow 2 q.toNat)
      else roundHalfEven (num * Nat.pow 2 (-q).toNat) den) = m := by
    by_cases hsign : 0 ≤ q
    · rw [if_pos hsign]
      refine roundHalfEven_of_nearest (Nat.mul_pos hden (Nat.pow_pos two_pos)) ?_
      rw [zpow_of_nonneg _ hsign, div_div] at hm
      exact_mod_cast hm
    · rw [if_neg hsign]
      refine roundHalfEven_of_nearest hden ?_
      rw [zpow_of_neg _ (by omega), div_inv_eq_mul, div_mul_eq_mul_div] at hm
      exact_mod_cast hm
  unfold magnitudeBits
  rw [if_neg hnum.ne']
  dsimp only at hlog ⊢
  rw [hlog, hround]

end Quotient

/-! ## The numbers that round to a double -/

section Holds

variable (x : Binary64)

/-- How far the interval of a double reaches below it, in units of its last place: under a
power of two the doubles are twice as near. -/
def below : ℚ := if x.fractionField = 0 ∧ 1 < x.exponentField then 1 / 4 else 1 / 2

/-- The numbers that round to a double, its sign apart; the ends are among them if the
significand is even. -/
def Holds (y : ℚ) : Prop :=
  let low : ℚ := (x.significand - x.below) * 2 ^ x.power
  let high : ℚ := (x.significand + 1 / 2) * 2 ^ x.power
  if x.significand % 2 = 0 then low ≤ y ∧ y ≤ high else low < y ∧ y < high

variable {x}

theorem fractionField_lt : x.fractionField < 2 ^ 52 := Nat.mod_lt _ (Nat.pow_pos two_pos)

theorem significand_lt : x.significand < 2 ^ 53 := by
  have h := @fractionField_lt x
  unfold significand
  rw [Nat.pow_eq]
  split <;> omega

theorem power_ge : -1074 ≤ x.power := by
  unfold power
  split <;> omega

theorem power_le (hx : x.isFinite = true) : x.power ≤ 971 := by
  have hlt : x.exponentField < 2048 := Nat.mod_lt _ (by omega)
  have hne : x.exponentField ≠ 2047 := by simpa [isFinite] using hx
  unfold power
  split <;> omega

theorem significand_ge (h : -1074 < x.power) :
    2 ^ 52 ≤ x.significand ∧ 1 < x.exponentField := by
  have hexponent : 1 < x.exponentField := by
    unfold power at h
    split at h <;> omega
  unfold significand
  rw [if_neg (by omega), Nat.pow_eq]
  exact ⟨Nat.le_add_right _ _, hexponent⟩

theorem Holds.bounds {y : ℚ} (h : x.Holds y) :
    (x.significand - x.below) * 2 ^ x.power ≤ y ∧
      y ≤ (x.significand + 1 / 2) * 2 ^ x.power := by
  unfold Holds at h
  dsimp only at h
  split at h
  · exact h
  · exact ⟨h.1.le, h.2.le⟩

theorem magnitude_eq (hx : x.isFinite = true) :
    Min.min infinityBits ((x.power + 1074).toNat * Nat.pow 2 52 + x.significand) =
      x.exponentField * Nat.pow 2 52 + x.fractionField := by
  have hlt : x.exponentField < 2048 := Nat.mod_lt _ (by omega)
  have hne : x.exponentField ≠ 2047 := by simpa [isFinite] using hx
  have hfraction := @fractionField_lt x
  have hsum : (x.power + 1074).toNat * Nat.pow 2 52 + x.significand =
      x.exponentField * Nat.pow 2 52 + x.fractionField := by
    unfold power significand
    by_cases h0 : x.exponentField = 0
    · rw [if_pos h0, if_pos h0, h0]
      rfl
    · obtain ⟨e, he⟩ : ∃ e, x.exponentField = e + 1 := ⟨x.exponentField - 1, by omega⟩
      rw [if_neg h0, if_neg h0, he]
      have htoNat : (((e + 1 : Nat) : Int) - 1075 + 1074).toNat = e := by omega
      rw [htoNat, Nat.add_mul, Nat.one_mul, Nat.add_assoc]
  rw [hsum]
  refine Nat.min_eq_right ?_
  unfold infinityBits
  simp only [Nat.pow_eq]
  omega

/-- The number that a double is, its sign apart, decides how a number in its interval is
rounded. -/
theorem nearest_of_holds {y : ℚ} (h : x.Holds y) : Nearest (y / 2 ^ x.power) x.significand := by
  have hpow : (0 : ℚ) < 2 ^ x.power := zpow_pos two_pos _
  have hbelow : x.below ≤ 1 / 2 := by
    unfold below
    split <;> norm_num
  obtain ⟨hlow, hhigh⟩ := h.bounds
  have hlow' : (x.significand - x.below : ℚ) ≤ y / 2 ^ x.power := (le_div_iff₀ hpow).2 hlow
  refine ⟨by linarith, (div_le_iff₀ hpow).2 hhigh, fun htie => ?_⟩
  -- a tie is an end of the interval, and belongs to it only if the significand is even
  by_contra hodd
  unfold Holds at h
  dsimp only at h
  rw [if_neg hodd, ← lt_div_iff₀ hpow, ← div_lt_iff₀ hpow] at h
  rcases htie with htie | htie
  · linarith [h.1]
  · linarith [h.2]

theorem Holds.lt {y : ℚ} (h : x.Holds y) : y < 2 ^ (x.power + 53) := by
  have hpow : (0 : ℚ) < 2 ^ x.power := zpow_pos two_pos _
  have hsignificand : (x.significand : ℚ) + 1 ≤ 2 ^ 53 := by
    exact_mod_cast @significand_lt x
  rw [zpow_add₀ two_ne_zero, mul_comm]
  calc y ≤ (x.significand + 1 / 2) * 2 ^ x.power := h.bounds.2
    _ < 2 ^ (53 : Int) * 2 ^ x.power := by
      refine mul_lt_mul_of_pos_right ?_ hpow
      norm_num at hsignificand ⊢
      linarith

/-- A number in the interval of a double that has fewer digits than the double is only just
below a power of two, which the double is. -/
theorem Holds.power_of_two {y : ℚ} (h : x.Holds y) (hpower : -1074 < x.power)
    (hsmall : y < 2 ^ (x.power + 52)) :
    x.significand = 2 ^ 52 ∧ x.below = 1 / 4 := by
  have hpow : (0 : ℚ) < 2 ^ x.power := zpow_pos two_pos _
  obtain ⟨hge, hexponent⟩ := significand_ge hpower
  have hlow : (x.significand : ℚ) - x.below < 2 ^ 52 := by
    rw [zpow_add₀ two_ne_zero, mul_comm] at hsmall
    have hlt := lt_of_mul_lt_mul_right (h.bounds.1.trans_lt hsmall) hpow.le
    exact_mod_cast hlt
  have hbelow : x.below < 1 := by
    unfold below
    split <;> norm_num
  have hlt : (x.significand : ℚ) < 2 ^ 52 + 1 := by linarith
  have hlt' : x.significand < 2 ^ 52 + 1 := by exact_mod_cast hlt
  have heq : x.significand = 2 ^ 52 := by omega
  refine ⟨heq, ?_⟩
  have hfraction : x.fractionField = 0 := by
    unfold significand at heq
    rw [if_neg (by omega), Nat.pow_eq] at heq
    omega
  unfold below
  rw [if_pos ⟨hfraction, hexponent⟩]

/-- A power of two is reached from below as well: a number of its interval under it is
rounded up, among the doubles of half its distance. -/
theorem magnitudeBits_of_power_of_two {num den : Nat} (hnum : 0 < num) (hden : 0 < den)
    (h : x.Holds (num / den)) (hpower : -1074 < x.power)
    (hsmall : (num / den : ℚ) < 2 ^ (x.power + 52)) :
    magnitudeBits num den =
      Min.min infinityBits ((x.power + 1074).toNat * Nat.pow 2 52 + x.significand) := by
  obtain ⟨hsignificand, hbelow⟩ := h.power_of_two hpower hsmall
  have hpow : (0 : ℚ) < 2 ^ (x.power - 1) := zpow_pos two_pos _
  have hhalf : (2 : ℚ) ^ x.power = 2 ^ (x.power - 1) * 2 := by
    rw [← zpow_add_one₀ two_ne_zero, Int.sub_add_cancel]
  -- the number lies in the upper half of the last step below `2 ^ 53`
  have hge : ((2 : ℚ) ^ 53 - 1 / 2) * 2 ^ (x.power - 1) ≤ num / den := by
    have hbound := h.bounds.1
    rw [hsignificand, hbelow, hhalf] at hbound
    push_cast at hbound
    linarith
  have hlt : (num / den : ℚ) < 2 ^ 53 * 2 ^ (x.power - 1) := by
    have hsplit : (2 : ℚ) ^ (x.power + 52) = 2 ^ 53 * 2 ^ (x.power - 1) := by
      rw [← zpow_natCast (2 : ℚ) 53, ← zpow_add₀ two_ne_zero]
      congr 1
      push_cast
      ring
    rwa [← hsplit]
  have hnearest : Nearest (num / den / 2 ^ (x.power - 1)) (2 ^ 53) := by
    refine ⟨?_, ?_, fun _ => by decide⟩
    · rw [le_div_iff₀ hpow]
      push_cast
      exact hge
    · rw [div_le_iff₀ hpow]
      push_cast
      linarith
  have hlow : (2 : ℚ) ^ (x.power - 1 + 52) ≤ num / den := by
    refine le_trans ?_ hge
    rw [zpow_add₀ two_ne_zero, mul_comm]
    refine mul_le_mul_of_nonneg_right ?_ hpow.le
    norm_num
  have hhigh : (num / den : ℚ) < 2 ^ (x.power - 1 + 53) := by
    rw [zpow_add₀ two_ne_zero, mul_comm]
    exact_mod_cast hlt
  -- `2 ^ 53` does not fit the lower field, and carries into the exponent
  have hbits : (x.power - 1 + 1074).toNat * Nat.pow 2 52 + 2 ^ 53 =
      (x.power + 1074).toNat * Nat.pow 2 52 + 2 ^ 52 := by
    have hstep : (x.power + 1074).toNat = (x.power - 1 + 1074).toNat + 1 := by omega
    rw [hstep, Nat.pow_eq]
    omega
  rw [magnitudeBits_of_nearest hnum hden (by omega) (.inr hlow) hhigh hnearest, hsignificand,
    hbits]

/-- Every number in the interval of a double is rounded to it. -/
theorem magnitudeBits_of_holds (hx : x.isFinite = true) {num den : Nat} (hnum : 0 < num)
    (hden : 0 < den) (h : x.Holds (num / den)) :
    magnitudeBits num den = x.exponentField * Nat.pow 2 52 + x.fractionField := by
  rw [← magnitude_eq hx]
  by_cases hlow : x.power = -1074 ∨ (2 : ℚ) ^ (x.power + 52) ≤ num / den
  · exact magnitudeBits_of_nearest hnum hden power_ge hlow h.lt (nearest_of_holds h)
  · rw [not_or, not_le] at hlow
    obtain ⟨hpower, hsmall⟩ := hlow
    have hpower' : -1074 < x.power := lt_of_le_of_ne power_ge (Ne.symm hpower)
    exact magnitudeBits_of_power_of_two hnum hden h hpower' hsmall

theorem ofMagnitude_eq (x : Binary64) :
    ofMagnitude x.isNegative (x.exponentField * Nat.pow 2 52 + x.fractionField) = x := by
  rcases x with ⟨bits⟩
  have hlt : bits.toNat < 2 ^ 64 := bits.toNat_lt
  unfold ofMagnitude isNegative exponentField fractionField
  congr 1
  rw [← UInt64.toNat_inj, UInt64.toNat_ofNat']
  simp only [Nat.pow_eq, ge_iff_le, decide_eq_true_eq]
  split <;> omega

end Holds

/-! ## Integers -/

theorem roundHalfEven_le (num den : Nat) : roundHalfEven num den ≤ num / den + 1 := by
  unfold roundHalfEven
  dsimp only
  split_ifs <;> omega

/-- An integer of 64 bits is rounded to a double far from infinity. -/
theorem magnitudeBits_lt_infinityBits {n : Nat} (h : n < 2 ^ 64) :
    magnitudeBits n 1 < infinityBits := by
  unfold magnitudeBits
  split
  · decide
  rename_i hn
  have hself : 2 ^ n.log2 ≤ n := Nat.log2_self_le hn
  have hlog : n.log2 < 64 := (Nat.log2_lt hn).2 h
  have hnext : n < 2 ^ (n.log2 + 1) := Nat.lt_log2_self
  have hone : Nat.log2 1 = 0 := by decide
  have hguess : (n.log2 : Int) - Nat.log2 1 = n.log2 := by simp [hone]
  have hreached : decide (1 * Nat.pow 2 (Int.toNat n.log2) ≤ n) = true := by
    simpa using hself
  simp only [hguess, Int.natCast_nonneg, if_true, hreached]
  rw [max_eq_left (by omega)]
  -- the rounded significand has at most one place more than a double
  have hround : (if 0 ≤ (n.log2 : Int) - 52 then
      roundHalfEven n (1 * Nat.pow 2 (Int.toNat (n.log2 - 52)))
      else roundHalfEven (n * Nat.pow 2 (-((n.log2 : Int) - 52)).toNat) 1) ≤ 2 ^ 53 + 1 := by
    split
    · rename_i hq
      refine (roundHalfEven_le _ _).trans (Nat.succ_le_succ ?_)
      rw [one_mul, Nat.pow_eq]
      refine Nat.div_le_of_le_mul ?_
      rw [← pow_add]
      refine hnext.le.trans (Nat.pow_le_pow_right two_pos (by omega))
    · rename_i hq
      refine (roundHalfEven_le _ _).trans (Nat.succ_le_succ ?_)
      rw [Nat.div_one, Nat.pow_eq]
      refine (Nat.mul_le_mul_right _ hnext.le).trans ?_
      rw [← pow_add]
      exact Nat.pow_le_pow_right two_pos (by omega)
  have hq : ((n.log2 : Int) - 52 + 1074).toNat ≤ 1085 := by omega
  have hbits : ((n.log2 : Int) - 52 + 1074).toNat * Nat.pow 2 52 ≤ 1085 * Nat.pow 2 52 :=
    Nat.mul_le_mul_right _ hq
  refine lt_of_le_of_lt (min_le_right _ _) (lt_of_le_of_lt (Nat.add_le_add hbits hround) ?_)
  decide

theorem isFinite_ofMagnitude {negative : Bool} {magnitude : Nat} (h : magnitude < infinityBits) :
    (ofMagnitude negative magnitude).isFinite = true := by
  have hlt : magnitude < 2047 * 2 ^ 52 := h
  unfold ofMagnitude isFinite exponentField
  rw [UInt64.toNat_ofNat']
  simp only [Nat.pow_eq, bne_iff_ne, ne_eq]
  split <;> omega

theorem isFinite_ofInt {i : Int} (h : i.natAbs < 2 ^ 64) : (ofInt i).isFinite = true :=
  isFinite_ofMagnitude (magnitudeBits_lt_infinityBits h)

end Binary64

end CloudClient
