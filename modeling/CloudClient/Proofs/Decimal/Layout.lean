import CloudClient.Decimal.Layout
import CloudClient.Decimal.Reader
import CloudClient.Proofs.Text.Numeral
import Mathlib.Data.List.TakeWhile
import Mathlib.Data.Rat.Defs
import Mathlib.Tactic.Ring
import Mathlib.Tactic.NormNum

/-!
# Written digits

However the point is put into digits, and whether or not they have an exponent, they are read
as what they are worth.

* `unsignedDouble?_whole`, `unsignedDouble?_fraction`: what digits with and without a point
  are read as.
* `unsignedDouble?_body`: the digits of a double in any layout.
* `double?_of_isDigit`, `Layout.text_eq`: the text of a finite double.
-/

namespace CloudClient.Decimal

/-! ## Digits with a point -/

/-- Digits end where the text goes on with something else. -/
theorem span_digits {cs tail : List Char} (hcs : ∀ c ∈ cs, c.isDigit = true)
    (htail : ∀ c ∈ tail.head?, Text.digit? c = none) :
    (cs ++ tail).takeWhile (fun c => (Text.digit? c).isSome) = cs ∧
      (cs ++ tail).dropWhile (fun c => (Text.digit? c).isSome) = tail := by
  refine Text.span_run (fun c hc => ?_) fun c hc => ?_
  · rw [Text.digit?_of_isDigit (hcs c hc)]
    rfl
  · rw [htail c hc]
    rfl

/-- An exponent is missing or starts with its letter. -/
theorem head?_of_exponent? {tail : List Char} {i : Int} (h : exponent? tail = some i) :
    ∀ c ∈ tail.head?, c = 'e' ∨ c = 'E' := by
  rintro c hc
  obtain ⟨tail, rfl⟩ := List.head?_eq_some_iff.1 hc
  by_contra hne
  obtain ⟨hlower, hupper⟩ := not_or.1 hne
  rw [exponent?, if_neg (by simp [hlower, hupper])] at h
  cases h

section Digits

variable {whole fraction tail : List Char} {i : Int} (hwhole : ∀ c ∈ whole, c.isDigit = true)
  (hne : whole ≠ []) (htail : exponent? tail = some i)
include hwhole hne htail

/-- Digits without a point. -/
theorem unsignedDouble?_whole (negative : Bool) :
    unsignedDouble? negative (whole ++ tail) =
      some (scale negative (Nat.ofDigitChars 10 whole 0) i) := by
  have hhead := head?_of_exponent? htail
  obtain ⟨htake, hdrop⟩ := span_digits hwhole fun c hc => by
    rcases hhead c hc with rfl | rfl <;> decide
  unfold unsignedDouble?
  simp only [htake, hdrop]
  rcases tail with _ | ⟨c, tail⟩
  · simp [hne, Text.digitsFrom?_eq hwhole, htail]
  · rcases hhead c rfl with rfl | rfl <;> simp [hne, Text.digitsFrom?_eq hwhole, htail]

/-- Digits around a point. -/
theorem unsignedDouble?_fraction (hfraction : ∀ c ∈ fraction, c.isDigit = true)
    (negative : Bool) :
    unsignedDouble? negative (whole ++ '.' :: (fraction ++ tail)) =
      some (scale negative (Nat.ofDigitChars 10 (whole ++ fraction) 0) (i - fraction.length)) := by
  have hhead := head?_of_exponent? htail
  obtain ⟨htake, hdrop⟩ := @span_digits whole ('.' :: (fraction ++ tail)) hwhole fun c hc => by
    obtain rfl := Option.some.inj hc
    decide
  obtain ⟨htake', hdrop'⟩ := span_digits hfraction fun c hc => by
    rcases hhead c hc with rfl | rfl <;> decide
  have hwritten := List.forall_mem_append.2 ⟨hwhole, hfraction⟩
  unfold unsignedDouble?
  simp only [htake, hdrop, htake', hdrop', Text.digitsFrom?_eq hwritten]
  simp [hne, htail]

end Digits

/-- What digits are worth: `0.d₁d₂… * 10 ^ point`. -/
def Digits.worth (d : Digits) : ℚ :=
  Nat.ofDigitChars 10 d.digits 0 * 10 ^ (d.point - d.digits.length)

/-- Digits are read as what they are worth, wherever the point is. -/
theorem unsignedDouble?_positionalText (keepsPoint negative : Bool) {d : Digits}
    (hne : d.digits ≠ []) (hdigits : ∀ c ∈ d.digits, c.isDigit = true) :
    ∃ (n : Nat) (e : Int), unsignedDouble? negative (positionalText keepsPoint d) =
      some (scale negative n e) ∧ (n : ℚ) * 10 ^ e = d.worth := by
  have hzeros (k : Nat) : ∀ c ∈ List.replicate k '0', c.isDigit = true := fun c hc => by
    rw [List.eq_of_mem_replicate hc]
    rfl
  have hend : exponent? [] = some 0 := rfl
  unfold positionalText Digits.worth
  by_cases hpoint : d.point ≤ 0
  · -- zeros stand between the point and the digits
    have hfraction := List.forall_mem_append.2 ⟨hzeros (-d.point).toNat, hdigits⟩
    have hread := @unsignedDouble?_fraction ['0'] _ [] 0 (by simp) (by simp) hend hfraction negative
    rw [List.append_nil] at hread
    rw [if_pos hpoint]
    refine ⟨_, _, hread, ?_⟩
    have hvalue : Nat.ofDigitChars 10
        (['0'] ++ (List.replicate (-d.point).toNat '0' ++ d.digits)) 0 =
          Nat.ofDigitChars 10 d.digits 0 := by
      rw [Nat.ofDigitChars_append, Nat.ofDigitChars_append, Nat.ofDigitChars_replicate_zero]
      rfl
    have hexponent : (0 - (List.replicate (-d.point).toNat '0' ++ d.digits).length : Int) =
        d.point - d.digits.length := by
      rw [List.length_append, List.length_replicate]
      omega
    rw [hvalue, hexponent]
  · rw [if_neg hpoint]
    dsimp only
    by_cases hlength : d.digits.length ≤ d.point.toNat
    · -- zeros stand between the digits and the point
      have hwhole := List.forall_mem_append.2
        ⟨hdigits, hzeros (d.point.toNat - d.digits.length)⟩
      have hsome : d.digits ++ List.replicate (d.point.toNat - d.digits.length) '0' ≠ [] := by
        simp [hne]
      have hexponent : d.point - d.digits.length =
          ((d.point.toNat - d.digits.length : Nat) : Int) := by omega
      rw [if_pos hlength, hexponent, zpow_natCast]
      cases keepsPoint with
      | false =>
        refine ⟨_, _, unsignedDouble?_whole hwhole hsome hend negative, ?_⟩
        rw [Nat.ofDigitChars_append, Nat.ofDigitChars_replicate_zero]
        push_cast
        ring
      | true =>
        -- the zero behind the point multiplies the digits by ten
        have hzero := hzeros 1
        refine ⟨_, _, unsignedDouble?_fraction hwhole hsome hend hzero negative, ?_⟩
        rw [Nat.ofDigitChars_append, Nat.ofDigitChars_append, Nat.ofDigitChars_replicate_zero,
          Nat.ofDigitChars_replicate_zero]
        push_cast
        norm_num
        ring
    · -- the point stands between two digits
      have htake : ∀ c ∈ d.digits.take d.point.toNat, c.isDigit = true := fun c hc =>
        hdigits c (List.mem_of_mem_take hc)
      have hdrop : ∀ c ∈ d.digits.drop d.point.toNat, c.isDigit = true := fun c hc =>
        hdigits c (List.mem_of_mem_drop hc)
      have hsome : d.digits.take d.point.toNat ≠ [] := by
        intro h
        have hlen := congrArg List.length h
        rw [List.length_take, List.length_nil] at hlen
        omega
      have hread := unsignedDouble?_fraction htake hsome hend hdrop negative
      rw [List.append_nil] at hread
      rw [if_neg hlength]
      refine ⟨_, _, hread, ?_⟩
      have hexponent : (0 - (d.digits.drop d.point.toNat).length : Int) =
          d.point - d.digits.length := by
        rw [List.length_drop]
        omega
      rw [List.take_append_drop, hexponent]

/-- Digits with a point start with a digit and have no other characters. -/
theorem positionalText_digits (keepsPoint : Bool) {d : Digits} (hne : d.digits ≠ [])
    (hdigits : ∀ c ∈ d.digits, c.isDigit = true) :
    (∃ c cs, positionalText keepsPoint d = c :: cs ∧ c.isDigit = true) ∧
      ∀ c ∈ positionalText keepsPoint d, c.isDigit = true ∨ c = '.' := by
  obtain ⟨first, rest, hd⟩ := List.exists_cons_of_ne_nil hne
  have hfirst : first.isDigit = true := hdigits first (hd ▸ List.mem_cons_self)
  unfold positionalText
  by_cases hpoint : d.point ≤ 0
  · rw [if_pos hpoint]
    refine ⟨⟨'0', _, rfl, by decide⟩, fun c hc => ?_⟩
    rw [List.mem_cons, List.mem_cons, List.mem_append] at hc
    rcases hc with rfl | rfl | hc | hc
    · exact .inl (by decide)
    · exact .inr rfl
    · rw [List.eq_of_mem_replicate hc]
      exact .inl (by decide)
    · exact .inl (hdigits c hc)
  · rw [if_neg hpoint]
    dsimp only
    by_cases hlength : d.digits.length ≤ d.point.toNat
    · rw [if_pos hlength]
      refine ⟨⟨first, _, by rw [hd, List.cons_append, List.cons_append], hfirst⟩, fun c hc => ?_⟩
      rw [List.mem_append, List.mem_append] at hc
      rcases hc with (hc | hc) | hc
      · exact .inl (hdigits c hc)
      · rw [List.eq_of_mem_replicate hc]
        exact .inl (by decide)
      · cases keepsPoint with
        | false => cases hc
        | true =>
          have hends : c = '.' ∨ c = '0' := by simpa using hc
          rcases hends with rfl | rfl
          · exact .inr rfl
          · exact .inl (by decide)
    · rw [if_neg hlength]
      obtain ⟨k, hk⟩ : ∃ k, d.point.toNat = k + 1 := ⟨d.point.toNat - 1, by omega⟩
      refine ⟨⟨first, _, by rw [hd, hk, List.take_succ_cons, List.cons_append], hfirst⟩,
        fun c hc => ?_⟩
      rw [List.mem_append, List.mem_cons] at hc
      rcases hc with hc | rfl | hc
      · exact .inl (hdigits c (List.mem_of_mem_take hc))
      · exact .inr rfl
      · exact .inl (hdigits c (List.mem_of_mem_drop hc))

/-- A text with a point in it, if whole numbers keep theirs. -/
theorem mem_positionalText {d : Digits} : '.' ∈ positionalText true d := by
  unfold positionalText
  by_cases hpoint : d.point ≤ 0
  · rw [if_pos hpoint]
    exact List.mem_cons_of_mem _ List.mem_cons_self
  · rw [if_neg hpoint]
    dsimp only
    by_cases hlength : d.digits.length ≤ d.point.toNat
    · rw [if_pos hlength]
      exact List.mem_append_right _ List.mem_cons_self
    · rw [if_neg hlength]
      exact List.mem_append_right _ List.mem_cons_self

/-! ## Digits with an exponent -/

def exponentTail (i : Int) : List Char :=
  'e' :: (if i < 0 then '-' else '+') :: Nat.toDigits 10 i.natAbs

theorem exponent?_exponentTail (i : Int) : exponent? (exponentTail i) = some i := by
  have hread := Text.natural?_toDigits i.natAbs
  unfold exponentTail
  by_cases hi : i < 0
  · rw [if_pos hi, exponent?, if_pos (by decide), Text.integer?, hread]
    show some (-(i.natAbs : Int)) = some i
    rw [Int.ofNat_natAbs_of_nonpos hi.le, neg_neg]
  · rw [if_neg hi, exponent?, if_pos (by decide), Text.integer?, hread]
    show some (i.natAbs : Int) = some i
    rw [Int.natAbs_of_nonneg (not_lt.1 hi)]

/-- The first digit, a point unless there are no more, the others and the exponent. -/
theorem exponentText_eq {d : Digits} {c : Char} {r : List Char} (hd : d.digits = c :: r) :
    exponentText d =
      c :: ((if r.isEmpty then [] else '.' :: r) ++ exponentTail (d.point - 1)) := by
  unfold exponentText
  rw [hd]
  cases r <;> rfl

/-- Digits with an exponent are read as what they are worth. -/
theorem unsignedDouble?_exponentText (negative : Bool) {d : Digits} (hne : d.digits ≠ [])
    (hdigits : ∀ c ∈ d.digits, c.isDigit = true) :
    ∃ (n : Nat) (e : Int), unsignedDouble? negative (exponentText d) =
      some (scale negative n e) ∧ (n : ℚ) * 10 ^ e = d.worth := by
  obtain ⟨c, r, hd⟩ := List.exists_cons_of_ne_nil hne
  have hexponent := exponent?_exponentTail (d.point - 1)
  rw [hd] at hdigits
  obtain ⟨hc, hr⟩ := List.forall_mem_cons.1 hdigits
  have hfirst : ∀ x ∈ [c], x.isDigit = true := List.forall_mem_singleton.2 hc
  have hsome : [c] ≠ [] := List.cons_ne_nil c []
  rw [exponentText_eq hd, Digits.worth, hd]
  by_cases hempty : r = []
  · subst hempty
    exact ⟨_, _, unsignedDouble?_whole hfirst hsome hexponent negative, rfl⟩
  · rw [if_neg (by simpa using hempty)]
    refine ⟨_, _, unsignedDouble?_fraction hfirst hsome hexponent hr negative, ?_⟩
    have hpoint : d.point - 1 - r.length = d.point - (c :: r).length := by
      rw [List.length_cons]
      push_cast
      ring
    rw [hpoint]
    rfl

/-- Digits with an exponent start with a digit and have no characters but digits, a point,
signs and the letter of the exponent, which is one of them. -/
theorem exponentText_digits {d : Digits} (hne : d.digits ≠ [])
    (hdigits : ∀ c ∈ d.digits, c.isDigit = true) :
    (∃ c cs, exponentText d = c :: cs ∧ c.isDigit = true) ∧ 'e' ∈ exponentText d ∧
      ∀ c ∈ exponentText d, c.isDigit = true ∨ c = '.' ∨ c = '-' ∨ c = '+' ∨ c = 'e' := by
  obtain ⟨first, r, hd⟩ := List.exists_cons_of_ne_nil hne
  rw [hd] at hdigits
  rw [exponentText_eq hd]
  refine ⟨⟨first, _, rfl, hdigits first List.mem_cons_self⟩, ?_, fun c hc => ?_⟩
  · exact List.mem_cons_of_mem _ (List.mem_append_right _ List.mem_cons_self)
  · rw [List.mem_cons, List.mem_append] at hc
    rcases hc with rfl | hc | hc
    · exact .inl (hdigits c List.mem_cons_self)
    · by_cases hempty : r.isEmpty = true
      · rw [if_pos hempty] at hc
        cases hc
      · rw [if_neg hempty, List.mem_cons] at hc
        rcases hc with rfl | hc
        · exact .inr (.inl rfl)
        · exact .inl (hdigits c (List.mem_cons_of_mem _ hc))
    · rw [exponentTail, List.mem_cons, List.mem_cons] at hc
      rcases hc with rfl | hc | hc
      · exact .inr (.inr (.inr (.inr rfl)))
      · split at hc
        · exact .inr (.inr (.inl hc))
        · exact .inr (.inr (.inr (.inl hc)))
      · exact .inl (Text.isDigit_toDigits c hc)

/-! ## Layouts -/

def Layout.body (l : Layout) (d : Digits) : List Char :=
  if l.positional d.point then positionalText l.keepsPoint d else exponentText d

/-- Digits in a layout start with a digit and are read as what they are worth. -/
theorem unsignedDouble?_body (l : Layout) (negative : Bool) {d : Digits} (hne : d.digits ≠ [])
    (hdigits : ∀ c ∈ d.digits, c.isDigit = true) :
    (∃ c cs, l.body d = c :: cs ∧ c.isDigit = true) ∧
      ∃ (n : Nat) (e : Int), unsignedDouble? negative (l.body d) = some (scale negative n e) ∧
        (n : ℚ) * 10 ^ e = d.worth := by
  unfold Layout.body
  split
  · exact ⟨(positionalText_digits l.keepsPoint hne hdigits).1,
      unsignedDouble?_positionalText l.keepsPoint negative hne hdigits⟩
  · exact ⟨(exponentText_digits hne hdigits).1,
      unsignedDouble?_exponentText negative hne hdigits⟩

/-! ## Texts -/

/-- What starts with a digit, its sign apart, is neither an infinity nor a NaN. -/
theorem double?_of_isDigit (negative : Bool) {c : Char} (hc : c.isDigit = true)
    (cs : List Char) :
    double? (.ofList ((if negative then ['-'] else []) ++ c :: cs)) =
      unsignedDouble? negative (c :: cs) := by
  have hminus : c ≠ '-' := Text.ne_of_isDigit hc (by decide)
  have hplus : c ≠ '+' := Text.ne_of_isDigit hc (by decide)
  have hsign : takeSign ((if negative then ['-'] else []) ++ c :: cs) =
      (negative, c :: cs) := by
    cases negative with
    | true => rfl
    | false =>
      show takeSign (c :: cs) = _
      unfold takeSign
      split
      · rename_i r h
        exact absurd (List.cons.inj h).1 hminus
      · rename_i r h
        exact absurd (List.cons.inj h).1 hplus
      · rfl
  have hlower : c.toLower = c := by
    have hbounds := Text.toNat_of_isDigit hc
    unfold Char.toLower
    rw [dif_neg]
    rintro ⟨h, -⟩
    rw [ge_iff_le, UInt32.le_iff_toNat_le] at h
    change 65 ≤ c.toNat at h
    omega
  -- a digit is its own lower case, and no word starts with one
  have hword {word : String} {x : Char} {xs : List Char} (hx : x.isDigit = false)
      (h : word.toList = x :: xs) :
      (String.ofList ((c :: cs).map Char.toLower) == word) = false := by
    rw [beq_eq_false_iff_ne]
    intro heq
    have hlist := congrArg String.toList heq
    rw [String.toList_ofList, h, List.map_cons, hlower] at hlist
    exact Text.ne_of_isDigit hc hx (List.cons.inj hlist).1
  have hinf := @hword "inf" 'i' _ (by decide) rfl
  have hinfinity := @hword "infinity" 'i' _ (by decide) rfl
  have hnan := @hword "nan" 'n' _ (by decide) rfl
  rw [double?, String.toList_ofList, hsign]
  dsimp only
  rw [hinf, hinfinity, hnan]
  simp only [Bool.or_self, Bool.false_eq_true, if_false]

/-- The text of a finite double is a sign and its digits. -/
theorem Layout.text_eq (l : Layout) {x : Binary64} (hx : x.isFinite = true) :
    l.text x = .ofList ((if x.isNegative then ['-'] else []) ++ l.body (shortest x)) := by
  have hnan : x.isNaN = false := by
    unfold Binary64.isFinite at hx
    unfold Binary64.isNaN
    rw [bne_iff_ne] at hx
    rw [beq_false_of_ne hx, Bool.false_and]
  unfold Layout.text
  rw [hnan, hx]
  rfl

end CloudClient.Decimal
