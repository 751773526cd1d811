import CloudClient.Proofs.Text.Split
import CloudClient.Xml.Escape

/-!
# Escaped text is read back

Escaped text holds no markup, and reading it gives the text that was escaped.

* `unescape?_escape`: the round trip.
* `mem_escape`: what escaped text is made of.
-/

namespace CloudClient

namespace Xml

/-- Text that a document keeps as it is: characters that it may hold, apart from the
carriage return, which is read as a line end. -/
def Plain (cs : List Char) : Prop := ∀ c ∈ cs, isChar c = true ∧ c ≠ '\r'

theorem Plain.tail {c : Char} {cs : List Char} (h : Plain (c :: cs)) : Plain cs :=
  fun x hx => h x (List.mem_cons_of_mem c hx)

instance (cs : List Char) : Decidable (Plain cs) :=
  List.decidableBAll (fun c => isChar c = true ∧ c ≠ '\r') cs

theorem isChar_of_isAlpha {c : Char} (h : c.isAlpha = true) : isChar c = true := by
  change (decide (65 ≤ c.val ∧ c.val ≤ 90) ||
    (decide (97 ≤ c.val) && decide (c.val ≤ 122))) = true at h
  simp only [Bool.or_eq_true, Bool.and_eq_true, decide_eq_true_eq, UInt32.le_iff_toNat_le] at h
  change (65 ≤ c.toNat ∧ c.toNat ≤ 90) ∨ (97 ≤ c.toNat ∧ c.toNat ≤ 122) at h
  unfold isChar
  rw [if_neg (by omega)]
  simp only [Bool.and_eq_true, bne_iff_ne, ne_eq]
  omega

/-! ## Escaping -/

theorem escape_cons (c : Char) (cs : List Char) : escape (c :: cs) = escapeChar c ++ escape cs :=
  rfl

/-- A character with an escape is written as a reference to it. -/
theorem escapeChar_cases (c : Char) :
    (∃ body, escapeChar c = '&' :: body ++ [';'] ∧ (∀ x ∈ body, x.isAlpha = true) ∧
        reference? body = some c) ∨
      escapeChar c = [c] ∧ c ≠ '<' ∧ c ≠ '>' ∧ c ≠ '&' := by
  by_cases hlt : c = '<'
  · subst hlt
    exact .inl ⟨['l', 't'], rfl, by simp, by decide⟩
  by_cases hgt : c = '>'
  · subst hgt
    exact .inl ⟨['g', 't'], rfl, by simp, by decide⟩
  by_cases hamp : c = '&'
  · subst hamp
    exact .inl ⟨['a', 'm', 'p'], rfl, by simp, by decide⟩
  by_cases hapos : c = '\''
  · subst hapos
    exact .inl ⟨['a', 'p', 'o', 's'], rfl, by simp, by decide⟩
  by_cases hquot : c = '"'
  · subst hquot
    exact .inl ⟨['q', 'u', 'o', 't'], rfl, by simp, by decide⟩
  refine .inr ⟨?_, hlt, hgt, hamp⟩
  unfold escapeChar
  split <;> simp_all

/-- Escaped text has no angle brackets, and no characters that the text could not have. -/
theorem mem_escape {cs : List Char} (hcs : Plain cs) {x : Char} (hx : x ∈ escape cs) :
    x ≠ '<' ∧ x ≠ '>' ∧ isChar x = true := by
  obtain ⟨c, hc, hxc⟩ := List.mem_flatMap.1 hx
  rcases escapeChar_cases c with ⟨body, hescape, hbody, -⟩ | ⟨hescape, hlt, hgt, -⟩
  · rw [hescape, List.cons_append, List.mem_cons, List.mem_append, List.mem_singleton] at hxc
    rcases hxc with rfl | hx | rfl
    · decide
    · have halpha := hbody x hx
      refine ⟨?_, ?_, ?_⟩
      · rintro rfl
        revert halpha
        decide
      · rintro rfl
        revert halpha
        decide
      · exact isChar_of_isAlpha halpha
    · decide
  · rw [hescape, List.mem_singleton] at hxc
    subst hxc
    exact ⟨hlt, hgt, (hcs x hc).1⟩

/-! ## Reading -/

theorem unescapeFrom?_reference (behind : Bool) {body : List Char} {c : Char}
    (hbody : ∀ x ∈ body, x ≠ ';') (hc : reference? body = some c) (rest : List Char) :
    unescapeFrom? behind ('&' :: body ++ [';'] ++ rest) =
      (unescapeFrom? true rest).map (c :: ·) := by
  have hsplit : Text.splitOnce? (· == ';') (body ++ ';' :: rest) = some (body, rest) :=
    Text.splitOnce?_append (by simpa using hbody) (by decide) rest
  rw [List.cons_append, List.cons_append, List.append_assoc, List.singleton_append,
    unescapeFrom?]
  split
  · rename_i hnone
    rw [hsplit] at hnone
    cases hnone
  · rename_i body' rest' hsome
    rw [hsplit] at hsome
    obtain ⟨rfl, rfl⟩ := Prod.mk.inj (Option.some.inj hsome)
    rw [hc]
    cases unescapeFrom? true rest <;> rfl

theorem unescapeFrom?_cons (behind : Bool) {c : Char} (hamp : c ≠ '&') (hreturn : c ≠ '\r')
    (rest : List Char) :
    unescapeFrom? behind (c :: rest) = (unescapeFrom? false rest).map (c :: ·) := by
  rw [unescapeFrom?]
  all_goals simp_all

theorem unescapeFrom?_escape (behind : Bool) {cs : List Char} (hcs : Plain cs) :
    unescapeFrom? behind (escape cs) = some cs := by
  induction cs generalizing behind with
  | nil => simp [escape, unescapeFrom?]
  | cons c cs ih =>
    rw [escape_cons]
    rcases escapeChar_cases c with ⟨body, hescape, hbody, hc⟩ | ⟨hescape, -, -, hamp⟩
    · -- the reference ends at its own semicolon
      have hnone : ∀ x ∈ body, x ≠ ';' := by
        rintro x hx rfl
        exact absurd (hbody _ hx) (by decide)
      rw [hescape, unescapeFrom?_reference behind hnone hc, ih true hcs.tail]
      rfl
    · have hreturn : c ≠ '\r' := (hcs c List.mem_cons_self).2
      rw [hescape, List.singleton_append, unescapeFrom?_cons behind hamp hreturn,
        ih false hcs.tail]
      rfl

theorem unescape?_escape {cs : List Char} (hcs : Plain cs) : unescape? (escape cs) = some cs :=
  unescapeFrom?_escape false hcs

end Xml

end CloudClient
