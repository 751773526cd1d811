import CloudClient.Text.Blank
import CloudClient.Text.Integer

/-!
# Written integers are read back

* `trimmed_eq_self`: text without blanks is kept as it is.
* `digitsFrom?_eq`: what a run of digits is worth.
* `i64?_ofInt`: an integer of 64 bits, written and read.
* `mem_of_integer?`, `mem_of_u64?`: what the text of an integer is made of.
-/

namespace CloudClient.Text

/-! ## Blanks -/

theorem trim_eq_self {cs : List Char} (h : ∀ c ∈ cs, isBlank c = false) : trim cs = cs := by
  have hstart : trimStart cs = cs := by
    unfold trimStart
    cases cs with
    | nil => rfl
    | cons c cs => rw [List.dropWhile_cons_of_neg (by simp [h c List.mem_cons_self])]
  rw [trim, hstart, trimEnd]
  have hreverse : ∀ c ∈ cs.reverse, isBlank c = false := fun c hc => h c (List.mem_reverse.1 hc)
  cases hcs : cs.reverse with
  | nil =>
    rw [List.reverse_eq_nil_iff] at hcs
    rw [hcs]
    rfl
  | cons c rest =>
    have hc : isBlank c = false := hreverse c (hcs ▸ List.mem_cons_self)
    rw [List.dropWhile_cons_of_neg (by simp [hc]), ← hcs, List.reverse_reverse]

theorem trimmed_eq_self {s : String} (h : ∀ c ∈ s.toList, isBlank c = false) :
    trimmed s = s := by
  rw [trimmed, trim_eq_self h, String.ofList_toList]

/-! ## Runs of characters -/

/-- A run of characters ends where the text goes on with something else. -/
theorem span_run {p : Char → Bool} {run rest : List Char} (hrun : ∀ c ∈ run, p c = true)
    (hrest : ∀ c ∈ rest.head?, p c = false) :
    (run ++ rest).takeWhile p = run ∧ (run ++ rest).dropWhile p = rest := by
  rw [List.takeWhile_append_of_pos hrun, List.dropWhile_append_of_pos hrun]
  cases rest with
  | nil => exact ⟨List.append_nil run, rfl⟩
  | cons c rest =>
    have hc : ¬ p c = true := Bool.eq_false_iff.1 (hrest c rfl)
    rw [List.takeWhile_cons_of_neg hc, List.dropWhile_cons_of_neg hc, List.append_nil]
    exact ⟨rfl, rfl⟩

/-! ## Digits -/

theorem toNat_of_isDigit {c : Char} (h : c.isDigit = true) : 48 ≤ c.toNat ∧ c.toNat ≤ 57 := by
  simp only [Char.isDigit, Bool.and_eq_true, decide_eq_true_eq, UInt32.le_iff_toNat_le] at h
  exact h

theorem ne_of_isDigit {c x : Char} (h : c.isDigit = true) (hx : x.isDigit = false) : c ≠ x := by
  rintro rfl
  rw [h] at hx
  cases hx

theorem isBlank_of_isDigit {c : Char} (h : c.isDigit = true) : isBlank c = false := by
  have hc := toNat_of_isDigit h
  simp only [isBlank, Bool.or_eq_false_iff, Bool.and_eq_false_iff, decide_eq_false_iff_not,
    beq_eq_false_iff_ne]
  omega

theorem digit?_of_isDigit {c : Char} (h : c.isDigit = true) :
    digit? c = some (c.toNat - '0'.toNat) := by
  have hc := toNat_of_isDigit h
  unfold digit?
  rw [if_pos]
  simp only [Char.le_def, UInt32.le_iff_toNat_le]
  exact hc

theorem digitsFrom?_eq {cs : List Char} (h : ∀ c ∈ cs, c.isDigit = true) (acc : Nat) :
    digitsFrom? acc cs = some (Nat.ofDigitChars 10 cs acc) := by
  induction cs generalizing acc with
  | nil => simp [digitsFrom?]
  | cons c cs ih =>
    rw [digitsFrom?, digit?_of_isDigit (h c List.mem_cons_self), Option.bind_some,
      ih fun x hx => h x (List.mem_cons_of_mem c hx), Nat.ofDigitChars_cons, Nat.mul_comm]

theorem isDigit_of_digit? {c : Char} (h : (digit? c).isSome = true) : c.isDigit = true := by
  unfold digit? at h
  split at h
  · rename_i hc
    simp only [Char.isDigit, Bool.and_eq_true, decide_eq_true_eq]
    exact hc
  · cases h

theorem isDigit_toDigits {n : Nat} : ∀ c ∈ Nat.toDigits 10 n, c.isDigit = true :=
  fun _ hc => Nat.isDigit_of_mem_toDigits (by omega) (by omega) hc

theorem natural?_toDigits (n : Nat) : natural? (Nat.toDigits 10 n) = some n := by
  obtain ⟨c, cs, hcs⟩ := List.exists_cons_of_ne_nil (@Nat.toDigits_ne_nil n 10)
  have hvalue := digitsFrom?_eq (@isDigit_toDigits n) 0
  rw [Nat.ofDigitChars_ten_toDigits] at hvalue
  rw [hcs] at hvalue ⊢
  exact hvalue

theorem digitChar_of_isDigit {c : Char} (h : c.isDigit = true) :
    Nat.digitChar (c.toNat - '0'.toNat) = c := by
  have hc := toNat_of_isDigit h
  have hzero : '0'.toNat = 48 := rfl
  apply Char.toNat_inj.1
  rw [hzero, Nat.toNat_digitChar_of_lt_ten (by omega)]
  omega

/-- Digits behind a number other than zero are the last digits of the whole. -/
theorem toDigits_ofDigitChars {cs : List Char} (h : ∀ c ∈ cs, c.isDigit = true) {acc : Nat}
    (hacc : 0 < acc) :
    Nat.toDigits 10 (Nat.ofDigitChars 10 cs acc) = Nat.toDigits 10 acc ++ cs := by
  induction cs generalizing acc with
  | nil => simp
  | cons c cs ih =>
    have hdigit := h c List.mem_cons_self
    have hc := toNat_of_isDigit hdigit
    have hzero : '0'.toNat = 48 := rfl
    have hlt : c.toNat - '0'.toNat < 10 := by omega
    rw [Nat.ofDigitChars_cons, ih (fun x hx => h x (List.mem_cons_of_mem c hx)) (by omega),
      ← Nat.toDigits_append_toDigits (by omega) hacc hlt, Nat.toDigits_of_lt_base hlt,
      digitChar_of_isDigit hdigit, List.append_assoc, List.singleton_append]

/-! ## Integers -/

theorem ofNat_inj {n m : Nat} (h : ofNat n = ofNat m) : n = m := by
  have hdigits : Nat.toDigits 10 n = Nat.toDigits 10 m := String.ofList_injective h
  have hread := congrArg natural? hdigits
  rw [natural?_toDigits, natural?_toDigits] at hread
  exact Option.some.inj hread

theorem mem_ofInt {i : Int} {c : Char} (h : c ∈ (ofInt i).toList) :
    c.isDigit = true ∨ c = '-' := by
  cases i with
  | ofNat n =>
    rw [ofInt, String.toList_ofList] at h
    exact .inl (isDigit_toDigits c h)
  | negSucc n =>
    rw [ofInt, String.toList_ofList, List.mem_cons] at h
    exact h.symm.imp_left (isDigit_toDigits c)

theorem integer?_ofInt (i : Int) : integer? (ofInt i).toList = some i := by
  cases i with
  | ofNat n =>
    have hread := natural?_toDigits n
    have hdigits := isDigit_toDigits (n := n)
    rw [ofInt, String.toList_ofList]
    obtain ⟨c, cs, hcs⟩ := List.exists_cons_of_ne_nil (@Nat.toDigits_ne_nil n 10)
    rw [hcs] at hread hdigits ⊢
    have hc : c.isDigit = true := hdigits c List.mem_cons_self
    -- the first digit is no sign
    have hminus : c ≠ '-' := ne_of_isDigit hc (by decide)
    have hplus : c ≠ '+' := ne_of_isDigit hc (by decide)
    rw [integer?]
    · rw [hread]
      rfl
    · rintro r ⟨⟩
      exact hminus rfl
    · rintro r ⟨⟩
      exact hplus rfl
  | negSucc n =>
    rw [ofInt, String.toList_ofList, integer?, natural?_toDigits]
    rfl

theorem isSome_of_digitsFrom? {cs : List Char} {acc n : Nat} (h : digitsFrom? acc cs = some n) :
    ∀ c ∈ cs, (digit? c).isSome = true := by
  induction cs generalizing acc with
  | nil => exact fun c hc => nomatch hc
  | cons x cs ih =>
    rw [digitsFrom?] at h
    obtain ⟨d, hd, hrest⟩ := Option.bind_eq_some_iff.1 h
    refine List.forall_mem_cons.2 ⟨?_, ih hrest⟩
    rw [hd]
    rfl

theorem isSome_of_natural? {cs : List Char} {n : Nat} (h : natural? cs = some n) :
    ∀ c ∈ cs, (digit? c).isSome = true := by
  cases cs with
  | nil => cases h
  | cons c cs => exact isSome_of_digitsFrom? h

/-- Digits without a needless zero in front are those of the number that they write. -/
theorem toDigits_of_natural? {cs : List Char} {n : Nat} (h : natural? cs = some n)
    (hfront : cs.length ≤ 1 ∨ cs.head? ≠ some '0') : Nat.toDigits 10 n = cs := by
  cases cs with
  | nil => cases h
  | cons c rest =>
    have hdigits : ∀ x ∈ c :: rest, x.isDigit = true := by
      intro x hx
      exact isDigit_of_digit? (isSome_of_digitsFrom? h x hx)
    have hc := hdigits c List.mem_cons_self
    have hbounds := toNat_of_isDigit hc
    have hzero : '0'.toNat = 48 := rfl
    have hfirst : Nat.toDigits 10 (c.toNat - '0'.toNat) = [c] := by
      rw [Nat.toDigits_of_lt_base (by omega), digitChar_of_isDigit hc]
    have hvalue : n = Nat.ofDigitChars 10 rest (c.toNat - '0'.toNat) := by
      have hread : natural? (c :: rest) = some (Nat.ofDigitChars 10 (c :: rest) 0) :=
        digitsFrom?_eq hdigits 0
      rw [h, Nat.ofDigitChars_cons, Nat.mul_zero, Nat.zero_add] at hread
      exact Option.some.inj hread
    subst hvalue
    by_cases hpos : 0 < c.toNat - '0'.toNat
    · have hrest : ∀ x ∈ rest, x.isDigit = true := fun x hx =>
        hdigits x (List.mem_cons_of_mem c hx)
      rw [toDigits_ofDigitChars hrest hpos, hfirst]
      rfl
    · -- a zero in front is the only digit
      have hchar : c = '0' := Char.toNat_inj.1 (by omega)
      subst hchar
      have hnil : rest = [] := by
        obtain hlength | hne := hfront
        · simpa using hlength
        · exact absurd rfl hne
      subst hnil
      exact hfirst

/-- The text of an integer has no other characters than digits and signs. -/
theorem mem_of_integer? {cs : List Char} {i : Int} (h : integer? cs = some i) :
    ∀ c ∈ cs, (digit? c).isSome = true ∨ c = '-' ∨ c = '+' := by
  have hdigits {cs : List Char} {f : Int → Int} (h : (natural? cs).map f = some i) :
      ∀ c ∈ cs, (digit? c).isSome = true := by
    obtain ⟨m, hm, -⟩ := Option.map_eq_some_iff.1 h
    obtain ⟨n, hn, -⟩ := Option.bind_eq_some_iff.1 hm
    exact isSome_of_natural? hn
  unfold integer? at h
  split at h
  · exact List.forall_mem_cons.2 ⟨.inr (.inl rfl), fun c hc => .inl (hdigits h c hc)⟩
  · exact List.forall_mem_cons.2 ⟨.inr (.inr rfl), fun c hc => .inl (hdigits h c hc)⟩
  · exact fun c hc => .inl (hdigits h c hc)

theorem i64?_ofInt {i : Int} (h : fitsI64 i = true) : i64? (ofInt i) = some i := by
  rw [i64?, integer?_ofInt]
  simp [Option.filter, h]

theorem isBlank_of_mem_ofInt {i : Int} {c : Char} (h : c ∈ (ofInt i).toList) :
    isBlank c = false := by
  rcases mem_ofInt h with hc | rfl
  · exact isBlank_of_isDigit hc
  · decide

/-! ## Numbers without sign -/

/-- The text of a number without sign has no other characters than digits and a plus sign. -/
theorem mem_of_u64? {t : String} {n : Nat} (h : u64? t = some n) :
    ∀ c ∈ t.toList, c.isDigit = true ∨ c = '+' := by
  have hdigits {cs : List Char} (h : (natural? cs).filter (· ≤ maxU64) = some n) :
      ∀ c ∈ cs, c.isDigit = true := by
    obtain ⟨hcs, -⟩ := Option.filter_eq_some_iff.1 h
    exact fun c hc => isDigit_of_digit? (isSome_of_natural? hcs c hc)
  unfold u64? unsigned? at h
  generalize t.toList = cs at h ⊢
  dsimp only at h
  split at h
  · exact List.forall_mem_cons.2 ⟨.inr rfl, fun c hc => .inl (hdigits h c hc)⟩
  · exact fun c hc => .inl (hdigits h c hc)

/-- Of the integers that are written otherwise than numbers without sign, the only one that is
not negative is a zero. -/
theorem eq_zero_of_i64? {t : String} {i : Int} (hnone : u64? t = none) (h : i64? t = some i)
    (hi : 0 ≤ i) : i = 0 := by
  obtain ⟨hinteger, hfits⟩ := Option.filter_eq_some_iff.1 h
  have hmax : i ≤ 9223372036854775807 := (of_decide_eq_true hfits).2
  have hvalue {cs : List Char} {f : Int → Int} (hcs : (natural? cs).map f = some i) :
      ∃ n : Nat, natural? cs = some n ∧ f n = i := by
    obtain ⟨m, hm, hi⟩ := Option.map_eq_some_iff.1 hcs
    obtain ⟨n, hn, hpure⟩ := Option.bind_eq_some_iff.1 hm
    cases hpure
    exact ⟨n, hn, hi⟩
  -- without a minus sign the same number would be one without sign
  have hplain {cs : List Char} {n : Nat} (hcs : natural? cs = some n) (hn : (n : Int) = i)
      (hno : (natural? cs).filter (· ≤ maxU64) = none) : False := by
    have hlarge : ¬ n ≤ maxU64 := fun hle =>
      Option.filter_eq_none_iff.1 hno n hcs (decide_eq_true hle)
    rw [maxU64] at hlarge
    omega
  unfold u64? unsigned? at hnone
  generalize t.toList = cs at hinteger hnone
  unfold integer? at hinteger
  dsimp only at hnone
  split at hinteger
  · obtain ⟨n, -, hn⟩ := hvalue hinteger
    omega
  · obtain ⟨n, hcs, hn⟩ := hvalue hinteger
    exact (hplain hcs hn hnone).elim
  · rename_i hplus
    obtain ⟨n, hcs, hn⟩ := hvalue hinteger
    split at hnone
    · exact absurd rfl (hplus _)
    · exact (hplain hcs hn hnone).elim

end CloudClient.Text
