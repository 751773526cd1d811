import CloudClient.Text.Blank
import Mathlib.Data.List.TakeWhile

/-!
# What trimming leaves

* `exists_trim`: trimming takes a blank front and a blank back off a text.
* `trimStart_trimEnd` and `trim_trim`: the order of the ends does not matter, and trimming twice
  changes nothing more.
* `trim_eq_self_iff`: what is kept as it is.
* `trim_eq_nil_iff`: trimming leaves nothing exactly of blank text.
* `trim_closed`: text between two characters that are not blank is kept.
-/

namespace CloudClient.Text

variable {cs : List Char}

/-- Text behind a character that is not blank is kept by `trimStart`. -/
theorem trimStart_cons {c : Char} (h : isBlank c = false) : trimStart (c :: cs) = c :: cs :=
  List.dropWhile_cons_of_neg (by simp [h])

theorem trimEnd_append_singleton {c : Char} (h : isBlank c = false) :
    trimEnd (cs ++ [c]) = cs ++ [c] := by
  rw [trimEnd, List.reverse_append, List.reverse_singleton, List.singleton_append,
    List.dropWhile_cons_of_neg (by simp [h]), List.reverse_cons, List.reverse_reverse]

theorem trim_closed {a b : Char} (ha : isBlank a = false) (hb : isBlank b = false) :
    trim (a :: cs ++ [b]) = a :: cs ++ [b] := by
  rw [trim, List.cons_append, trimStart_cons ha, ← List.cons_append, trimEnd_append_singleton hb]

theorem exists_trim (cs : List Char) :
    ∃ front back, cs = front ++ (trim cs ++ back) ∧ (∀ c ∈ front, isBlank c = true) ∧
      ∀ c ∈ back, isBlank c = true := by
  refine ⟨cs.takeWhile isBlank, ((trimStart cs).reverse.takeWhile isBlank).reverse, ?_,
    fun c hc => List.mem_takeWhile_imp hc,
    fun c hc => List.mem_takeWhile_imp (List.mem_reverse.1 hc)⟩
  rw [trim, trimEnd, ← List.reverse_append, List.takeWhile_append_dropWhile,
    List.reverse_reverse, trimStart, List.takeWhile_append_dropWhile]

theorem mem_of_mem_trim {c : Char} (h : c ∈ trim cs) : c ∈ cs := by
  obtain ⟨front, back, hcs, -, -⟩ := exists_trim cs
  rw [hcs]
  exact List.mem_append_right front (List.mem_append_left back h)

theorem trim_eq_nil_iff : trim cs = [] ↔ ∀ c ∈ cs, isBlank c = true := by
  constructor
  · intro h
    obtain ⟨front, back, hcs, hfront, hback⟩ := exists_trim cs
    rw [hcs, h]
    exact List.forall_mem_append.2 ⟨hfront, hback⟩
  · intro h
    have hstart : trimStart cs = [] := List.dropWhile_eq_nil_iff.2 h
    rw [trim, hstart]
    rfl

/-! ## The two ends -/

/-- Nothing is dropped exactly where the first character is to be kept. -/
theorem dropWhile_eq_self_iff_head? {p : Char → Bool} :
    cs.dropWhile p = cs ↔ ∀ c ∈ cs.head?, p c = false := by
  cases cs with
  | nil => simp
  | cons c r =>
    rw [List.dropWhile_eq_self_iff]
    simp

theorem trimEnd_prefix (cs : List Char) : trimEnd cs <+: cs := by
  rw [trimEnd, ← List.reverse_suffix, List.reverse_reverse]
  exact List.dropWhile_suffix _

theorem trimEnd_append {front : List Char} (hfront : ∀ c ∈ front, isBlank c = false) :
    trimEnd (front ++ cs) = front ++ trimEnd cs := by
  have hstop : front.reverse.dropWhile isBlank = front.reverse :=
    dropWhile_eq_self_iff_head?.2 fun c hc =>
      hfront c (List.mem_reverse.1 (List.mem_of_mem_head? hc))
  rw [trimEnd, List.reverse_append, List.dropWhile_append, hstop, trimEnd]
  split
  · rename_i hnil
    rw [List.isEmpty_iff.1 hnil, List.reverse_reverse, List.reverse_nil, List.append_nil]
  · rw [List.reverse_append, List.reverse_reverse]

theorem trim_append {front : List Char} (hne : front ≠ [])
    (hfront : ∀ c ∈ front, isBlank c = false) : trim (front ++ cs) = front ++ trimEnd cs := by
  obtain ⟨c, r, rfl⟩ := List.exists_cons_of_ne_nil hne
  rw [trim, List.cons_append, trimStart_cons (hfront c List.mem_cons_self), ← List.cons_append,
    trimEnd_append hfront]

theorem trimStart_cons_of_isBlank {c : Char} (h : isBlank c = true) (cs : List Char) :
    trimStart (c :: cs) = trimStart cs :=
  List.dropWhile_cons_of_pos h

/-- It does not matter which end is trimmed first. -/
theorem trimStart_trimEnd (cs : List Char) : trimStart (trimEnd cs) = trimEnd (trimStart cs) := by
  induction cs with
  | nil => rfl
  | cons c r ih =>
    cases hc : isBlank c with
    | false =>
      have hend : trimEnd (c :: r) = c :: trimEnd r :=
        @trimEnd_append r [c] (by simpa using hc)
      rw [hend, trimStart_cons hc, trimStart_cons hc, hend]
    | true =>
      rw [trimStart_cons_of_isBlank hc, ← ih, trimEnd, List.reverse_cons, List.dropWhile_append]
      split
      · -- the rest is blank too
        rename_i hnil
        rw [List.dropWhile_cons_of_pos hc, trimEnd, List.isEmpty_iff.1 hnil]
        rfl
      · rw [List.reverse_append, List.reverse_singleton, List.singleton_append,
          trimStart_cons_of_isBlank hc, trimEnd]

theorem trimEnd_trimEnd (cs : List Char) : trimEnd (trimEnd cs) = trimEnd cs := by
  rw [trimEnd, trimEnd, List.reverse_reverse]
  exact congrArg List.reverse (trimStart_idem _)

theorem trim_trimEnd (cs : List Char) : trim (trimEnd cs) = trim cs := by
  rw [trim, trimStart_trimEnd, trimEnd_trimEnd, trim]

/-- A blank at the end is trimmed with the rest. -/
theorem trim_concat_of_isBlank {c : Char} (h : isBlank c = true) : trim (cs ++ [c]) = trim cs := by
  have hend : trimEnd (cs ++ [c]) = trimEnd cs := by
    rw [trimEnd, List.reverse_append, List.reverse_singleton, List.singleton_append,
      List.dropWhile_cons_of_pos h, trimEnd]
  rw [← trim_trimEnd, hend, trim_trimEnd]

theorem trimStart_trim (cs : List Char) : trimStart (trim cs) = trim cs := by
  rw [trim, trimStart_trimEnd, trimStart_idem]

theorem trim_trim (cs : List Char) : trim (trim cs) = trim cs := by
  rw [trim, trimStart_trim, trim, trimEnd_trimEnd]

theorem trimEnd_eq_self_iff : trimEnd cs = cs ↔ ∀ c ∈ cs.getLast?, isBlank c = false := by
  rw [← List.head?_reverse, ← dropWhile_eq_self_iff_head?, trimEnd, List.reverse_eq_iff]

/-- Trimming keeps a text exactly if neither end of it is blank. -/
theorem trim_eq_self_iff :
    trim cs = cs ↔ (∀ c ∈ cs.head?, isBlank c = false) ∧ ∀ c ∈ cs.getLast?, isBlank c = false := by
  rw [← dropWhile_eq_self_iff_head?, ← trimEnd_eq_self_iff]
  constructor
  · intro h
    -- neither trim can take anything more off
    have hstart : trimStart cs = cs := by rw [← h, trimStart_trim]
    have hend : trimEnd cs = cs := by rw [← h, trim, trimEnd_trimEnd]
    exact ⟨hstart, hend⟩
  · rintro ⟨hstart, hend⟩
    change trimStart cs = cs at hstart
    rw [trim, hstart, hend]

end CloudClient.Text
