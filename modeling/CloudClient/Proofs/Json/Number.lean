import CloudClient.Json.Reader
import CloudClient.Proofs.Text.Numeral
import Mathlib.Data.List.Basic
import Mathlib.Tactic.ByContra

/-!
# Numbers in JSON text

A number is read in front of what may follow it as it is read on its own, and a written
integer is read as itself.

* `Json.Follows`: what may follow a value.
* `Json.number_append`: a number in front of more text.
* `Json.number_ofInt`: a written integer.
-/

namespace CloudClient.Json

/-! ## What may follow a value -/

/-- The text after a value: it ends, or goes on with a sign that no value has in it. -/
def Follows (rest : List Char) : Prop :=
  ∀ c ∈ rest.head?, c = ',' ∨ c = ']' ∨ c = '}'

theorem Follows.digit? {rest : List Char} (h : Follows rest) :
    ∀ c ∈ rest.head?, Text.digit? c = none := by
  intro c hc
  rcases h c hc with rfl | rfl | rfl <;> decide

/-! ## Numbers in front of more text -/

theorem startsWithDigit_append {cs rest : List Char} (h : Follows rest) :
    startsWithDigit (cs ++ rest) = startsWithDigit cs := by
  cases cs with
  | cons c cs => rfl
  | nil =>
    cases rest with
    | nil => rfl
    | cons c rest =>
      show (Text.digit? c).isSome = false
      rw [h.digit? c rfl]
      rfl

theorem digits_append {step : Mantissa → Nat → Mantissa} (m : Mantissa) (cs : List Char)
    {rest : List Char} (h : Follows rest) :
    digits step m (cs ++ rest) = ((digits step m cs).1, (digits step m cs).2 ++ rest) := by
  induction cs generalizing m with
  | nil =>
    cases rest with
    | nil => rfl
    | cons c rest =>
      show digits step m (c :: rest) = (m, c :: rest)
      rw [digits, h.digit? c rfl]
  | cons c cs ih =>
    rw [List.cons_append, digits, digits]
    cases Text.digit? c with
    | none => rfl
    | some d => exact ih (step m d)

theorem finish_append {negative : Bool} {m : Mantissa} {exponent : Int} {cs back : List Char}
    {n : Number} (h : finish negative m exponent cs = .ok (n, back)) (rest : List Char) :
    finish negative m exponent (cs ++ rest) = .ok (n, back ++ rest) := by
  unfold finish at h ⊢
  cases hscaled : scaled? m.significand exponent with
  | none =>
    rw [hscaled] at h
    cases h
  | some x =>
    rw [hscaled] at h
    obtain ⟨rfl, rfl⟩ := Prod.mk.inj (Except.ok.inj h)
    rfl

def exponentSign : List Char → Bool × List Char
  | '+' :: r => (false, r)
  | '-' :: r => (true, r)
  | r => (false, r)

/-- What an exponent gives once its sign is read. -/
def exponentDigits (negative : Bool) (m : Mantissa) (down : Bool) (body : List Char) :
    Read Number :=
  let rest := body.dropWhile fun c => (Text.digit? c).isSome
  match Text.natural? (body.takeWhile fun c => (Text.digit? c).isSome) with
  | none => .error ⟨if rest.isEmpty then .endOfInput else .badNumber, rest⟩
  | some e =>
    if e > 2147483647 then
      if m.significand != 0 && !down then .error ⟨.outOfRange, rest⟩
      else .ok (.double (.ofMagnitude negative 0), rest)
    else finish negative m (if down then m.exponent - e else m.exponent + e) rest

theorem exponentPart_eq (negative : Bool) (m : Mantissa) (cs : List Char) :
    exponentPart negative m cs =
      exponentDigits negative m (exponentSign cs).1 (exponentSign cs).2 :=
  rfl

theorem exponentSign_append {cs : List Char} (hne : cs ≠ []) (rest : List Char) :
    exponentSign (cs ++ rest) = ((exponentSign cs).1, (exponentSign cs).2 ++ rest) := by
  obtain ⟨c, cs, rfl⟩ := List.exists_cons_of_ne_nil hne
  rw [List.cons_append]
  unfold exponentSign
  split <;> simp_all

theorem span_append (cs : List Char) {rest : List Char} (h : Follows rest) :
    ((cs ++ rest).takeWhile fun c => (Text.digit? c).isSome) =
        cs.takeWhile (fun c => (Text.digit? c).isSome) ∧
      ((cs ++ rest).dropWhile fun c => (Text.digit? c).isSome) =
        cs.dropWhile (fun c => (Text.digit? c).isSome) ++ rest := by
  induction cs with
  | nil =>
    cases rest with
    | nil => exact ⟨rfl, rfl⟩
    | cons c rest =>
      have hc : ¬ (Text.digit? c).isSome = true := by
        rw [h.digit? c rfl]
        decide
      exact ⟨List.takeWhile_cons_of_neg hc, List.dropWhile_cons_of_neg hc⟩
  | cons c cs ih =>
    by_cases hc : (Text.digit? c).isSome = true <;> simp [hc, ih.1, ih.2]

theorem exponentPart_append {negative : Bool} {m : Mantissa} {cs back : List Char} {n : Number}
    (h : exponentPart negative m cs = .ok (n, back)) {rest : List Char} (hrest : Follows rest) :
    exponentPart negative m (cs ++ rest) = .ok (n, back ++ rest) := by
  have hne : cs ≠ [] := by
    rintro rfl
    cases h
  rw [exponentPart_eq] at h
  rw [exponentPart_eq, exponentSign_append hne]
  unfold exponentDigits at h ⊢
  -- sign and digits are the same, so that both come to the same case
  simp only [span_append _ hrest]
  cases hdigits : Text.natural?
      ((exponentSign cs).2.takeWhile fun c => (Text.digit? c).isSome) with
  | none =>
    rw [hdigits] at h
    cases h
  | some e =>
    simp only [hdigits] at h ⊢
    by_cases hlarge : e > 2147483647
    · simp only [if_pos hlarge] at h ⊢
      by_cases hover : (m.significand != 0 && !(exponentSign cs).1) = true
      · rw [if_pos hover] at h
        cases h
      · rw [if_neg hover] at h ⊢
        obtain ⟨rfl, rfl⟩ := Prod.mk.inj (Except.ok.inj h)
        rfl
    · simp only [if_neg hlarge] at h ⊢
      exact finish_append h rest

def Mantissa.signed (m : Mantissa) (negative : Bool) : Int :=
  if negative then -(m.significand : Int) else m.significand

/-- What a number gives whose digits are followed by neither a point nor an exponent. -/
def whole (negative : Bool) (m : Mantissa) (cs : List Char) : Read Number :=
  if m.full || (negative && (m.significand = 0 || m.signed negative < -9223372036854775808)) then
    finish negative m m.exponent cs
  else .ok (.int (m.signed negative), cs)

/-- What a number gives once the digits behind its point are read. -/
def fraction (negative : Bool) (m : Mantissa) : List Char → Read Number
  | c :: r =>
    if c == 'e' || c == 'E' then exponentPart negative m r
    else finish negative m m.exponent (c :: r)
  | [] => finish negative m m.exponent []

theorem numberTail_point (negative : Bool) (m : Mantissa) (r : List Char) :
    numberTail negative m ('.' :: r) =
      if startsWithDigit r then
        let read := digits .fractionDigit { m with full := false } r
        fraction negative read.1 read.2
      else .error ⟨if r.isEmpty then .endOfInput else .badNumber, r⟩ := by
  rw [numberTail]
  rcases digits .fractionDigit { m with full := false } r with ⟨read, _ | ⟨c, rest⟩⟩ <;> rfl

theorem numberTail_exponent (negative : Bool) (m : Mantissa) {c : Char} (hc : c = 'e' ∨ c = 'E')
    (r : List Char) : numberTail negative m (c :: r) = exponentPart negative m r := by
  rcases hc with rfl | rfl <;> rfl

theorem numberTail_whole (negative : Bool) (m : Mantissa) {cs : List Char}
    (h : ∀ c ∈ cs.head?, c ≠ '.' ∧ c ≠ 'e' ∧ c ≠ 'E') :
    numberTail negative m cs = whole negative m cs := by
  unfold numberTail whole
  split
  · exact absurd rfl (h '.' rfl).1
  · split
    · exact absurd rfl (h 'e' rfl).2.1
    · exact absurd rfl (h 'E' rfl).2.2
    · rfl

theorem fraction_append {negative : Bool} {m : Mantissa} {cs back : List Char} {n : Number}
    (h : fraction negative m cs = .ok (n, back)) {rest : List Char} (hrest : Follows rest) :
    fraction negative m (cs ++ rest) = .ok (n, back ++ rest) := by
  cases cs with
  | nil =>
    cases rest with
    | nil => simpa using h
    | cons c rest =>
      have hc : ¬ (c == 'e' || c == 'E') = true := by
        rcases hrest c rfl with rfl | rfl | rfl <;> decide
      rw [List.nil_append, fraction, if_neg hc]
      exact finish_append h _
  | cons c cs =>
    rw [List.cons_append, fraction] at *
    by_cases hc : (c == 'e' || c == 'E') = true
    · rw [if_pos hc] at h ⊢
      exact exponentPart_append h hrest
    · rw [if_neg hc] at h ⊢
      exact finish_append h rest

theorem whole_append {negative : Bool} {m : Mantissa} {cs back : List Char} {n : Number}
    (h : whole negative m cs = .ok (n, back)) (rest : List Char) :
    whole negative m (cs ++ rest) = .ok (n, back ++ rest) := by
  unfold whole at h ⊢
  split at h
  · case isTrue hfull =>
    rw [if_pos hfull]
    exact finish_append h rest
  · case isFalse hfull =>
    rw [if_neg hfull]
    obtain ⟨rfl, rfl⟩ := Prod.mk.inj (Except.ok.inj h)
    rfl

theorem numberTail_append {negative : Bool} {m : Mantissa} {cs back : List Char} {n : Number}
    (h : numberTail negative m cs = .ok (n, back)) {rest : List Char} (hrest : Follows rest) :
    numberTail negative m (cs ++ rest) = .ok (n, back ++ rest) := by
  -- what may follow is neither a point nor an exponent, so the case is that of `cs` alone
  by_cases hwhole : ∀ c ∈ cs.head?, c ≠ '.' ∧ c ≠ 'e' ∧ c ≠ 'E'
  · rw [numberTail_whole negative m hwhole] at h
    have happend : ∀ c ∈ (cs ++ rest).head?, c ≠ '.' ∧ c ≠ 'e' ∧ c ≠ 'E' := by
      intro c hc
      cases cs with
      | cons d cs => exact hwhole c hc
      | nil => rcases hrest c hc with rfl | rfl | rfl <;> decide
    rw [numberTail_whole negative m happend]
    exact whole_append h rest
  · obtain ⟨c, hc, hmark⟩ := not_forall₂.mp hwhole
    obtain ⟨cs, rfl⟩ := List.head?_eq_some_iff.mp hc
    by_cases hpoint : c = '.'
    · subst hpoint
      rw [List.cons_append, numberTail_point] at *
      rw [startsWithDigit_append hrest]
      split at h
      · case isTrue hdigit =>
        rw [if_pos hdigit, digits_append _ _ hrest]
        exact fraction_append h hrest
      · cases h
    · have hexponent : c = 'e' ∨ c = 'E' := by
        by_contra hne
        exact hmark ⟨hpoint, not_or.mp hne⟩
      rw [List.cons_append, numberTail_exponent negative m hexponent] at *
      exact exponentPart_append h hrest

theorem unsignedNumber_append {negative : Bool} {cs back : List Char} {n : Number}
    (h : unsignedNumber negative cs = .ok (n, back)) {rest : List Char} (hrest : Follows rest) :
    unsignedNumber negative (cs ++ rest) = .ok (n, back ++ rest) := by
  by_cases hstart : startsWithDigit cs = true
  case neg =>
    have hzero : ∀ r, cs ≠ '0' :: r := by
      rintro r rfl
      exact hstart rfl
    rw [unsignedNumber.eq_2 negative cs hzero, if_neg hstart] at h
    cases h
  case pos =>
    obtain ⟨c, cs, rfl⟩ : ∃ c r, cs = c :: r := by
      cases cs with
      | nil => cases hstart
      | cons c r => exact ⟨c, r, rfl⟩
    by_cases hc : c = '0'
    · subst hc
      rw [List.cons_append, unsignedNumber] at *
      rw [startsWithDigit_append hrest]
      split at h
      · cases h
      · case isFalse hdigit =>
        rw [if_neg hdigit]
        exact numberTail_append h hrest
    · have hne : ∀ r d, c :: d ≠ '0' :: r := fun r d he => hc (List.cons.inj he).1
      rw [unsignedNumber.eq_2 negative _ fun r => hne r cs, if_pos hstart] at h
      rw [List.cons_append, unsignedNumber.eq_2 negative _ fun r => hne r (cs ++ rest),
        ← List.cons_append, startsWithDigit_append hrest, if_pos hstart, digits_append _ _ hrest]
      exact numberTail_append h hrest

/-- A number is read in front of what may follow it as it is read on its own. -/
theorem number_append {cs back : List Char} {n : Number} (h : number cs = .ok (n, back))
    {rest : List Char} (hrest : Follows rest) :
    number (cs ++ rest) = .ok (n, back ++ rest) := by
  have hne : cs ≠ [] := by
    rintro rfl
    cases h
  obtain ⟨c, cs, rfl⟩ := List.exists_cons_of_ne_nil hne
  by_cases hc : c = '-'
  · subst hc
    exact unsignedNumber_append h hrest
  · have hsign : ∀ r d, c :: d = '-' :: r → False := fun r d he => hc (List.cons.inj he).1
    rw [number.eq_2 _ fun r => hsign r cs] at h
    rw [List.cons_append, number.eq_2 _ fun r => hsign r (cs ++ rest)]
    exact unsignedNumber_append h hrest

/-! ## Written integers -/

theorem head?_toDigits {n : Nat} (h : 0 < n) : (Nat.toDigits 10 n).head? ≠ some '0' := by
  induction n using Nat.strongRecOn with
  | ind n ih =>
    rw [Nat.toDigits_eq_if (by omega)]
    split
    · next hsmall =>
      simp only [List.head?_cons, ne_eq, Option.some.injEq, Nat.digitChar_eq_zero]
      omega
    · next hlarge =>
      rw [List.head?_append_of_ne_nil _ Nat.toDigits_ne_nil]
      exact ih (n / 10) (by omega) (by omega)

theorem le_ofDigitChars (cs : List Char) (acc : Nat) : acc ≤ Nat.ofDigitChars 10 cs acc := by
  induction cs generalizing acc with
  | nil => exact Nat.le_refl acc
  | cons c cs ih =>
    rw [Nat.ofDigitChars_cons]
    have hrest := ih (10 * acc + (c.toNat - '0'.toNat))
    omega

/-- Digits of a number that fits 64 bits are all kept. -/
theorem digits_whole {cs : List Char} (hdigit : ∀ c ∈ cs, c.isDigit = true) {acc : Nat}
    (hfits : Nat.ofDigitChars 10 cs acc ≤ Text.maxU64) :
    digits .wholeDigit ⟨acc, 0, false⟩ cs = (⟨Nat.ofDigitChars 10 cs acc, 0, false⟩, []) := by
  induction cs generalizing acc with
  | nil => rfl
  | cons c cs ih =>
    rw [Nat.ofDigitChars_cons, Nat.mul_comm] at hfits
    have hle := le_ofDigitChars cs (acc * 10 + (c.toNat - '0'.toNat))
    have hstep : Mantissa.wholeDigit ⟨acc, 0, false⟩ (c.toNat - '0'.toNat) =
        ⟨acc * 10 + (c.toNat - '0'.toNat), 0, false⟩ := by
      have hnot : ¬ acc * 10 + (c.toNat - '0'.toNat) > Text.maxU64 := by omega
      simp only [Mantissa.wholeDigit, Bool.false_or, decide_eq_true_eq, if_neg hnot]
    rw [digits, Text.digit?_of_isDigit (hdigit c List.mem_cons_self)]
    dsimp only
    rw [hstep, ih (fun x hx => hdigit x (List.mem_cons_of_mem c hx)) hfits,
      Nat.ofDigitChars_cons, Nat.mul_comm]

theorem unsignedNumber_toDigits {n : Nat} (h : n ≤ Text.maxU64) (negative : Bool) :
    unsignedNumber negative (Nat.toDigits 10 n) = whole negative ⟨n, 0, false⟩ [] := by
  have hend : ∀ m, numberTail negative m [] = whole negative m [] :=
    fun m => numberTail_whole negative m fun c hc => nomatch hc
  rcases Nat.eq_zero_or_pos n with rfl | hpos
  · rw [Nat.toDigits_zero]
    exact hend ⟨0, 0, false⟩
  · have hdigit := @Text.isDigit_toDigits n
    -- a leading zero would end the number
    have hhead := head?_toDigits hpos
    have hvalue := @Nat.ofDigitChars_ten_toDigits n
    obtain ⟨c, cs, hcs⟩ := List.exists_cons_of_ne_nil (@Nat.toDigits_ne_nil n 10)
    rw [hcs] at hdigit hhead hvalue ⊢
    have hstart : startsWithDigit (c :: cs) = true := by
      rw [startsWithDigit, Text.digit?_of_isDigit (hdigit c List.mem_cons_self)]
      rfl
    have hzero : ∀ r, c :: cs = '0' :: r → False := by
      rintro r ⟨⟩
      exact hhead rfl
    rw [unsignedNumber.eq_2 negative _ hzero, if_pos hstart,
      digits_whole hdigit (by rw [hvalue]; exact h), hvalue]
    exact hend ⟨n, 0, false⟩

/-- A written integer is read as itself. -/
theorem number_ofInt {i : Int} (h : Text.fitsI64 i = true) :
    number (Text.ofInt i).toList = .ok (.int i, []) := by
  have hrange : -9223372036854775808 ≤ i ∧ i ≤ 9223372036854775807 := of_decide_eq_true h
  cases i with
  | ofNat n =>
    have hn : n ≤ Text.maxU64 := by
      rw [Int.ofNat_eq_natCast] at hrange
      unfold Text.maxU64
      omega
    have hdigit := @Text.isDigit_toDigits n
    have hread := unsignedNumber_toDigits hn false
    rw [Text.ofInt, String.toList_ofList]
    have hsign : ∀ r, Nat.toDigits 10 n = '-' :: r → False := by
      intro r hr
      rw [hr] at hdigit
      exact absurd (hdigit '-' List.mem_cons_self) (by decide)
    rw [number.eq_2 _ hsign, hread]
    rfl
  | negSucc n =>
    have hn : n + 1 ≤ Text.maxU64 := by
      unfold Text.maxU64
      omega
    rw [Text.ofInt, String.toList_ofList, number, unsignedNumber_toDigits hn]
    rw [whole, if_neg]
    · rfl
    · simp only [Mantissa.signed, if_true, Bool.false_or, Bool.true_and, Bool.or_eq_true,
        decide_eq_true_eq]
      omega

end CloudClient.Json
