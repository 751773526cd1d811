import CloudClient.Decimal.Shortest
import CloudClient.Proofs.Decimal.Layout
import CloudClient.Proofs.Rounding
import Mathlib.Algebra.Order.Floor.Semifield
import Mathlib.Data.Nat.Cast.Order.Field
import Mathlib.Data.Rat.Floor

/-!
# Shortest digits lie in the interval of their double

The search for digits ends: a grid of eighteen digits is finer than the doubles are.  What it
finds is a number that rounds to the double.

* `holds_interval`: the interval, on whole numbers and as quotients.
* `zpow_magnitude_le`: the digits in front of the point are not too many.
* `isSome_onGrid?`: a fine grid has a number in the interval.
* `holds_worth_shortest`: what is found.
-/

namespace CloudClient.Decimal

open Binary64 (Holds)

/-! ## Intervals -/

section Interval

variable {iv : Interval}

/-- Whether a number on a grid lies in an interval. -/
theorem holds_iff (hden : 0 < iv.den) (c : Nat) (g : Int) :
    iv.holds c g = true ↔
      if iv.closed then
        (iv.low / iv.den : ℚ) ≤ c * 10 ^ g ∧ (c * 10 ^ g : ℚ) ≤ iv.high / iv.den
      else (iv.low / iv.den : ℚ) < c * 10 ^ g ∧ (c * 10 ^ g : ℚ) < iv.high / iv.den := by
  have hden' : (0 : ℚ) < iv.den := by exact_mod_cast hden
  unfold Interval.holds
  by_cases hg : 0 ≤ g
  · simp only [if_pos hg, zpow_of_nonneg 10 hg, Nat.pow_eq, mul_one]
    cases iv.closed
    · simp only [Bool.false_eq_true, if_false, decide_eq_true_eq, div_lt_iff₀ hden',
        lt_div_iff₀ hden']
      norm_cast
    · simp only [if_true, decide_eq_true_eq, div_le_iff₀ hden', le_div_iff₀ hden']
      norm_cast
  · have hpow : (0 : ℚ) < 10 ^ (-g).toNat := by positivity
    simp only [if_neg hg, zpow_of_neg 10 (not_le.1 hg), Nat.pow_eq, ← div_eq_mul_inv]
    cases iv.closed
    · simp only [Bool.false_eq_true, if_false, decide_eq_true_eq, div_lt_div_iff₀ hden' hpow,
        div_lt_div_iff₀ hpow hden']
      norm_cast
    · simp only [if_true, decide_eq_true_eq, div_le_div_iff₀ hden' hpow,
        div_le_div_iff₀ hpow hden']
      norm_cast

/-- The number on a grid that is taken, where the value lies `num / step` steps up. -/
def chosen (iv : Interval) (g : Int) (num step : Nat) : Option Nat :=
  match iv.holds (num / step) g && num / step != 0, iv.holds (num / step + 1) g with
  | true, true =>
    if 2 * (num % step) < step then some (num / step)
    else if step < 2 * (num % step) then some (num / step + 1)
    else if num / step % 2 = 0 then some (num / step) else some (num / step + 1)
  | true, false => some (num / step)
  | false, true => some (num / step + 1)
  | false, false => none

theorem onGrid?_eq (hden : 0 < iv.den) (g : Int) :
    ∃ num step : Nat, 0 < step ∧ (num / step : ℚ) = iv.value / iv.den / 10 ^ g ∧
      iv.onGrid? g = chosen iv g num step := by
  by_cases hg : 0 ≤ g
  · refine ⟨iv.value, iv.den * 10 ^ g.toNat, by positivity, ?_, ?_⟩
    · rw [zpow_of_nonneg 10 hg, div_div]
      norm_cast
    · unfold Interval.onGrid? chosen
      simp only [if_pos hg]
      rfl
  · refine ⟨iv.value * 10 ^ (-g).toNat, iv.den, hden, ?_, ?_⟩
    · rw [zpow_of_neg 10 (not_le.1 hg), div_inv_eq_mul, div_mul_eq_mul_div]
      norm_cast
    · unfold Interval.onGrid? chosen
      simp only [if_neg hg]
      rfl

/-- What a grid gives lies in the interval. -/
theorem holds_of_onGrid? (hden : 0 < iv.den) {g : Int} {c : Nat}
    (h : iv.onGrid? g = some c) : iv.holds c g = true ∧ c ≠ 0 := by
  obtain ⟨num, step, -, -, hgrid⟩ := onGrid?_eq hden g
  rw [hgrid, chosen] at h
  -- the steps next to the value are taken only if they lie in the interval
  cases hhere : iv.holds (num / step) g && num / step != 0 with
  | false =>
    cases hnext : iv.holds (num / step + 1) g with
    | false => simp [hhere, hnext] at h
    | true =>
      simp only [hhere, hnext, Option.some.injEq] at h
      subst h
      exact ⟨hnext, Nat.succ_ne_zero _⟩
  | true =>
    have hhere' := hhere
    rw [Bool.and_eq_true, bne_iff_ne] at hhere'
    cases hnext : iv.holds (num / step + 1) g with
    | false =>
      simp only [hhere, hnext, Option.some.injEq] at h
      subst h
      exact hhere'
    | true =>
      have hnext' : iv.holds (num / step + 1) g = true ∧ num / step + 1 ≠ 0 :=
        ⟨hnext, Nat.succ_ne_zero _⟩
      simp only [hhere, hnext] at h
      split_ifs at h <;> obtain rfl := Option.some.inj h
      · exact hhere'
      · exact hnext'
      · exact hhere'
      · exact hnext'

/-- A grid that is finer than the upper part of an interval has a number in it. -/
theorem isSome_onGrid? (hden : 0 < iv.den) {g : Int} (hlow : iv.low ≤ iv.value)
    (hfine : (iv.value / iv.den : ℚ) + 10 ^ g < iv.high / iv.den) :
    (iv.onGrid? g).isSome = true := by
  have hden' : (0 : ℚ) < iv.den := by exact_mod_cast hden
  have hpow : (0 : ℚ) < 10 ^ g := by positivity
  obtain ⟨num, step, hstep, hratio, hgrid⟩ := onGrid?_eq hden g
  have hfloor : ((num / step : Nat) : ℚ) ≤ iv.value / iv.den / 10 ^ g := by
    rw [← hratio]
    exact Nat.cast_div_le
  have hceil : (iv.value / iv.den / 10 ^ g : ℚ) < (num / step : Nat) + 1 := by
    rw [← hratio, ← Nat.floor_div_eq_div (K := ℚ)]
    exact Nat.lt_floor_add_one _
  -- the next step up from the value does not leave the interval
  have hnext : iv.holds (num / step + 1) g = true := by
    have hlow' : (iv.low / iv.den : ℚ) ≤ iv.value / iv.den :=
      div_le_div_of_nonneg_right (by exact_mod_cast hlow) hden'.le
    rw [le_div_iff₀ hpow] at hfloor
    rw [div_lt_iff₀ hpow] at hceil
    have hover : (iv.low / iv.den : ℚ) < ((num / step + 1 : Nat) : ℚ) * 10 ^ g := by
      push_cast
      linarith
    have hunder : (((num / step + 1 : Nat) : ℚ) * 10 ^ g : ℚ) < iv.high / iv.den := by
      push_cast
      linarith
    rw [holds_iff hden]
    split
    · exact ⟨hover.le, hunder.le⟩
    · exact ⟨hover, hunder⟩
  rw [hgrid, chosen, hnext]
  cases iv.holds (num / step) g && num / step != 0 with
  | false => rfl
  | true =>
    dsimp only
    split_ifs <;> rfl

end Interval

section Double

variable {x : Binary64}

theorem significand_pos (hzero : x.isZero = false) : 0 < x.significand := by
  unfold Binary64.isZero at hzero
  unfold Binary64.significand
  by_cases h0 : x.exponentField = 0
  · rw [if_pos h0]
    simp only [h0, beq_self_eq_true, Bool.true_and, beq_eq_false_iff_ne] at hzero
    exact Nat.pos_of_ne_zero hzero
  · rw [if_neg h0]
    exact Nat.add_pos_left (Nat.pow_pos two_pos) _

theorem interval_den_pos : 0 < (interval x).den := by
  unfold interval
  dsimp only
  split
  · exact Nat.one_pos
  · exact Nat.pow_pos two_pos

/-- Quarters of the last place over the denominator of an interval. -/
theorem quarters (x : Binary64) (k : Nat) :
    ((k * if 0 ≤ x.power - 2 then Nat.pow 2 (x.power - 2).toNat else 1 : Nat) : ℚ) /
      ((interval x).den) = k / 4 * 2 ^ x.power := by
  have hunit : (2 : ℚ) ^ x.power = 2 ^ (x.power - 2) * 4 := by
    rw [zpow_sub₀ two_ne_zero]
    norm_num
  unfold interval
  dsimp only
  by_cases hg : 0 ≤ x.power - 2
  · rw [if_pos hg, if_pos hg, hunit, zpow_of_nonneg 2 hg, Nat.pow_eq]
    push_cast
    ring
  · rw [if_neg hg, if_neg hg, hunit, zpow_of_neg 2 (not_le.1 hg), Nat.pow_eq]
    push_cast
    ring

theorem value_interval (x : Binary64) :
    ((interval x).value / (interval x).den : ℚ) = x.significand * 2 ^ x.power := by
  have h := quarters x (4 * x.significand)
  push_cast at h
  rw [mul_div_cancel_left₀ _ four_ne_zero] at h
  rw [← h]
  unfold interval
  push_cast
  rfl

theorem high_interval (x : Binary64) :
    ((interval x).high / (interval x).den : ℚ) = (x.significand + 1 / 2) * 2 ^ x.power := by
  have h := quarters x (4 * x.significand + 2)
  have hsplit : (((4 * x.significand + 2 : Nat) : ℚ) / 4) = x.significand + 1 / 2 := by
    push_cast
    ring
  rw [hsplit] at h
  rw [← h]
  rfl

theorem low_interval (hzero : x.isZero = false) :
    ((interval x).low / (interval x).den : ℚ) = (x.significand - x.below) * 2 ^ x.power := by
  have hpos := significand_pos hzero
  have h := quarters x (4 * x.significand -
    if x.fractionField = 0 ∧ 1 < x.exponentField then 1 else 2)
  have hsplit : (((4 * x.significand -
      if x.fractionField = 0 ∧ 1 < x.exponentField then 1 else 2 : Nat) : ℚ) / 4) =
        x.significand - x.below := by
    unfold Binary64.below
    split
    · rw [Nat.cast_sub (by omega)]
      push_cast
      ring
    · rw [Nat.cast_sub (by omega)]
      push_cast
      ring
  rw [hsplit] at h
  rw [← h]
  rfl

/-- The interval on whole numbers is the interval of the double. -/
theorem holds_interval (hzero : x.isZero = false) (c : Nat) (g : Int) :
    (interval x).holds c g = true ↔ x.Holds (c * 10 ^ g) := by
  have hclosed : (interval x).closed = (x.significand % 2 == 0) := rfl
  rw [holds_iff interval_den_pos, low_interval hzero, high_interval, hclosed]
  unfold Binary64.Holds
  simp only [beq_iff_eq]

/-- Eighteen digits are enough for every double: their grid is finer than the interval. -/
theorem isSome_onGrid?_interval {g : Int}
    (hgrid : (10 : ℚ) ^ (g + 17) ≤ x.significand * 2 ^ x.power) :
    ((interval x).onGrid? g).isSome = true := by
  have hpow : (0 : ℚ) < 2 ^ x.power := zpow_pos two_pos _
  have hlow : (interval x).low ≤ (interval x).value := by
    unfold interval
    exact Nat.mul_le_mul_right _ (Nat.sub_le _ _)
  refine isSome_onGrid? interval_den_pos hlow ?_
  rw [value_interval, high_interval, add_mul, add_lt_add_iff_left]
  have hsignificand : (x.significand : ℚ) < 2 ^ 53 := by
    exact_mod_cast @Binary64.significand_lt x
  have hsmall : (10 : ℚ) ^ g * 10 ^ 17 < 2 ^ 53 * 2 ^ x.power := by
    calc (10 : ℚ) ^ g * 10 ^ 17 = 10 ^ (g + 17) := by
          rw [zpow_add₀ (by norm_num)]
          rfl
      _ ≤ x.significand * 2 ^ x.power := hgrid
      _ < 2 ^ 53 * 2 ^ x.power := mul_lt_mul_of_pos_right hsignificand hpow
  norm_num at hsmall ⊢
  linarith

end Double

/-! ## The search -/

section Search

/-- Decimal and binary logarithms: `30103 / 100000` is near the logarithm of two. -/
theorem pow_ten_le : ∀ n < 1100, 10 ^ (n * 30103 / 100000) * 2 ≤ 2 ^ n * 1000 := by
  decide +kernel

theorem pow_two_le : ∀ n < 1100, 2 ^ (n + 1) ≤ 10 ^ ((n * 30103 + 99999) / 100000 + 3) := by
  decide +kernel

theorem zpow_ten_le {log : Int} (hlow : -1100 < log) (hhigh : log < 1100) :
    (10 : ℚ) ^ (log * 30103 / 100000 - 3) ≤ 2 ^ (log - 1) := by
  -- quotients are rounded down, and so the powers are compared on each side of one
  by_cases hsign : 0 ≤ log
  · obtain ⟨n, rfl⟩ := Int.eq_ofNat_of_zero_le hsign
    have hpow : ((10 ^ (n * 30103 / 100000) * 2 : Nat) : ℚ) ≤ ((2 ^ n * 1000 : Nat) : ℚ) := by
      exact_mod_cast pow_ten_le n (by omega)
    have hexponent : ((n : Int) * 30103 / 100000) = ((n * 30103 / 100000 : Nat) : Int) := by
      omega
    push_cast at hpow
    rw [hexponent, zpow_sub₀ (by norm_num), zpow_sub₀ two_ne_zero, zpow_natCast, zpow_natCast,
      div_le_div_iff₀ (by norm_num) (by norm_num)]
    norm_num at hpow ⊢
    exact hpow
  · obtain ⟨n, hn⟩ : ∃ n : Nat, log = -(n : Int) := ⟨(-log).toNat, by omega⟩
    subst hn
    have hpow : ((2 ^ (n + 1) : Nat) : ℚ) ≤
        ((10 ^ ((n * 30103 + 99999) / 100000 + 3) : Nat) : ℚ) := by
      exact_mod_cast pow_two_le n (by omega)
    have hten : (-(n : Int) * 30103 / 100000 - 3) =
        -(((n * 30103 + 99999) / 100000 + 3 : Nat) : Int) := by omega
    have htwo : (-(n : Int) - 1) = -((n + 1 : Nat) : Int) := by omega
    rw [hten, htwo, zpow_neg, zpow_neg, zpow_natCast, zpow_natCast]
    push_cast at hpow
    exact inv_anti₀ (by positivity) hpow

variable {num den : Nat}

theorem zpow_up_le (hden : 0 < den) (fuel : Nat) {k : Int}
    (hk : (10 : ℚ) ^ (k - 1) ≤ num / den) :
    (10 : ℚ) ^ (magnitude.up num den fuel k - 1) ≤ num / den := by
  have hden' : (0 : ℚ) < den := by exact_mod_cast hden
  induction fuel generalizing k with
  | zero => exact hk
  | succ fuel ih =>
    -- a step up is made only if the next power of ten is reached
    have hle := @decide_zpow_le num den hden 10 (by norm_num) k
    unfold magnitude.up
    dsimp only
    by_cases hg : 0 ≤ k
    · rw [if_pos hg] at hle ⊢
      by_cases hsmall : num < den * Nat.pow 10 k.toNat
      · rw [decide_eq_true hsmall, if_pos rfl]
        exact hk
      · rw [decide_eq_false hsmall, if_neg Bool.false_ne_true]
        rw [decide_eq_true (not_lt.1 hsmall), eq_comm, decide_eq_true_eq] at hle
        refine ih ?_
        rw [Int.add_sub_cancel]
        exact_mod_cast hle
    · rw [if_neg hg] at hle ⊢
      by_cases hsmall : num * Nat.pow 10 (-k).toNat < den
      · rw [decide_eq_true hsmall, if_pos rfl]
        exact hk
      · rw [decide_eq_false hsmall, if_neg Bool.false_ne_true]
        rw [decide_eq_true (not_lt.1 hsmall), eq_comm, decide_eq_true_eq] at hle
        refine ih ?_
        rw [Int.add_sub_cancel]
        exact_mod_cast hle

/-- The digits in front of the point are not more than the number has. -/
theorem zpow_magnitude_le (hnum : 0 < num) (hden : 0 < den) (hlogNum : Nat.log2 num < 1100)
    (hlogDen : Nat.log2 den < 1100) : (10 : ℚ) ^ (magnitude num den - 1) ≤ num / den := by
  unfold magnitude
  dsimp only
  refine zpow_up_le hden 8 ?_
  rw [Int.sub_sub]
  refine (zpow_ten_le (by omega) (by omega)).trans ?_
  exact (ratio_bounds hnum hden).1.le

/-- The search finds something on the first grid that has a number in the interval. -/
theorem search_spec {iv : Interval} {point : Int} {fuel n : Nat}
    (h : ∃ i < fuel, (iv.onGrid? (point - (n + i : Nat))).isSome = true) :
    ∃ c g, search iv point fuel n = (c, g) ∧ iv.onGrid? g = some c := by
  induction fuel generalizing n with
  | zero =>
    obtain ⟨i, hi, -⟩ := h
    omega
  | succ fuel ih =>
    unfold search
    cases hgrid : iv.onGrid? (point - n) with
    | some c => exact ⟨c, _, rfl, hgrid⟩
    | none =>
      refine ih ?_
      obtain ⟨i, hi, hsome⟩ := h
      cases i with
      | zero =>
        rw [Nat.add_zero, hgrid] at hsome
        cases hsome
      | succ i =>
        refine ⟨i, by omega, ?_⟩
        rw [Nat.add_assoc, Nat.add_comm 1 i]
        exact hsome

end Search

/-! ## Shortest digits -/

section Shortest

variable {x : Binary64}

theorem log2_interval (hx : x.isFinite = true) (hzero : x.isZero = false) :
    Nat.log2 (interval x).value < 1100 ∧ Nat.log2 (interval x).den < 1100 := by
  have hge := @Binary64.power_ge x
  have hle := Binary64.power_le hx
  have hpos := significand_pos hzero
  have hlt := @Binary64.significand_lt x
  unfold interval
  dsimp only
  by_cases hg : 0 ≤ x.power - 2
  · rw [if_pos hg, if_pos hg, Nat.pow_eq]
    have hpow : 0 < 2 ^ (x.power - 2).toNat := Nat.pow_pos two_pos
    have hvalue : 4 * x.significand * 2 ^ (x.power - 2).toNat <
        2 ^ (55 + (x.power - 2).toNat) := by
      rw [Nat.pow_add]
      exact Nat.mul_lt_mul_of_pos_right (by omega) hpow
    have hne : 4 * x.significand * 2 ^ (x.power - 2).toNat ≠ 0 :=
      (Nat.mul_pos (by omega) hpow).ne'
    have hlog := (Nat.log2_lt hne).2 hvalue
    exact ⟨by omega, by decide⟩
  · rw [if_neg hg, if_neg hg, Nat.pow_eq, Nat.log2_two_pow, Nat.mul_one]
    have hlog := (Nat.log2_lt (n := 4 * x.significand) (k := 55) (by omega)).2 (by omega)
    exact ⟨by omega, by omega⟩

/-- The search ends with a number in the interval. -/
theorem search_interval (hx : x.isFinite = true) (hzero : x.isZero = false) :
    ∃ c g, search (interval x) (magnitude (interval x).value (interval x).den) 18 1 = (c, g) ∧
      x.Holds (c * 10 ^ g) ∧ c ≠ 0 := by
  have hpos := significand_pos hzero
  have hvalue : 0 < (interval x).value := by
    unfold interval
    dsimp only
    refine Nat.mul_pos (by omega) ?_
    split
    · exact Nat.pow_pos two_pos
    · exact Nat.one_pos
  obtain ⟨hlogValue, hlogDen⟩ := log2_interval hx hzero
  have hmagnitude := zpow_magnitude_le hvalue interval_den_pos hlogValue hlogDen
  rw [value_interval] at hmagnitude
  -- the last grid of the search is fine enough
  have hlast : ((interval x).onGrid?
      (magnitude (interval x).value (interval x).den - (1 + 17 : Nat))).isSome = true := by
    refine isSome_onGrid?_interval ?_
    have hexponent (k : Int) : k - ((1 + 17 : Nat) : Int) + 17 = k - 1 := by
      push_cast
      ring
    rw [hexponent]
    exact hmagnitude
  obtain ⟨c, g, hsearch, hgrid⟩ := search_spec ⟨17, show 17 < 18 by omega, hlast⟩
  obtain ⟨hholds, hc⟩ := holds_of_onGrid? interval_den_pos hgrid
  exact ⟨c, g, hsearch, (holds_interval hzero c g).1 hholds, hc⟩

/-- Zeros at the end of digits are the power of ten that they stand for. -/
theorem toDigits_eq_append (c : Nat) :
    ∃ k, Nat.toDigits 10 c =
      ((Nat.toDigits 10 c).reverse.dropWhile (· == '0')).reverse ++ List.replicate k '0' := by
  have hsplit := List.takeWhile_append_dropWhile (p := (· == '0'))
    (l := (Nat.toDigits 10 c).reverse)
  have hzeros : (Nat.toDigits 10 c).reverse.takeWhile (· == '0') =
      List.replicate ((Nat.toDigits 10 c).reverse.takeWhile (· == '0')).length '0' := by
    refine List.eq_replicate_of_mem fun d hd => ?_
    have hzero := List.mem_takeWhile_imp hd
    exact beq_iff_eq.1 hzero
  refine ⟨((Nat.toDigits 10 c).reverse.takeWhile (· == '0')).length, ?_⟩
  rw [hzeros] at hsplit
  have hreverse := congrArg List.reverse hsplit
  rw [List.reverse_append, List.reverse_replicate, List.reverse_reverse] at hreverse
  exact hreverse.symm

/-- The shortest digits of a double are digits, and what they are worth rounds to it. -/
theorem holds_worth_shortest (hx : x.isFinite = true) (hzero : x.isZero = false) :
    (shortest x).digits ≠ [] ∧ (∀ c ∈ (shortest x).digits, c.isDigit = true) ∧
      x.Holds (shortest x).worth ∧ 0 < (shortest x).worth := by
  obtain ⟨c, g, hsearch, hholds, hc⟩ := search_interval hx hzero
  obtain ⟨k, hk⟩ := toDigits_eq_append c
  have hshortest : shortest x =
      ⟨((Nat.toDigits 10 c).reverse.dropWhile (· == '0')).reverse,
        g + (Nat.toDigits 10 c).length⟩ := by
    unfold shortest
    rw [hzero, if_neg Bool.false_ne_true]
    dsimp only
    rw [hsearch]
  rw [hshortest]
  generalize ((Nat.toDigits 10 c).reverse.dropWhile (· == '0')).reverse = kept at hk ⊢
  have hvalue : c = 10 ^ k * Nat.ofDigitChars 10 kept 0 := by
    have h := @Nat.ofDigitChars_ten_toDigits c
    rw [hk, Nat.ofDigitChars_append, Nat.ofDigitChars_replicate_zero] at h
    exact h.symm
  -- the zeros that are left out are made up for by the power
  have hworth : (Digits.mk kept (g + (Nat.toDigits 10 c).length)).worth = c * 10 ^ g := by
    have hlength : (Nat.toDigits 10 c).length = kept.length + k := by
      rw [hk, List.length_append, List.length_replicate]
    have hexponent : g + ((kept.length + k : Nat) : Int) - (kept.length : Int) = k + g := by
      push_cast
      ring
    unfold Digits.worth
    dsimp only
    rw [hlength, hexponent, zpow_add₀ (by norm_num), zpow_natCast]
    conv_rhs => rw [hvalue]
    push_cast
    ring
  rw [hworth]
  refine ⟨?_, fun d hd => ?_, hholds, ?_⟩
  · rintro rfl
    rw [Nat.ofDigitChars_nil, Nat.mul_zero] at hvalue
    exact hc hvalue
  · refine Text.isDigit_toDigits (n := c) d ?_
    rw [hk]
    exact List.mem_append_left _ hd
  · have hc' : (0 : ℚ) < c := by exact_mod_cast Nat.pos_of_ne_zero hc
    exact mul_pos hc' (zpow_pos (by norm_num) g)

end Shortest

end CloudClient.Decimal
