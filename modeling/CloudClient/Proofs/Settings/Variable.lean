import CloudClient.Proofs.Text.Numeral
import CloudClient.Proofs.Text.Trim
import CloudClient.Settings.Variable

/-!
# What the text of a variable is worth

The text of a variable stands for itself, unless it is written as a value of another kind: a
truth value, a number, a text in quotes and so on.

* `Variable.shape_read`: what the value of a variable can be.
* `Variable.read_of_u64?`: numbers do not.
-/

namespace CloudClient

namespace Settings.Variable

open Text

variable {t : String}

/-- What the value of a variable can be, next to the text that stands in it. -/
inductive Shape (t : String) : Value → Prop
  | itself : Shape t (.text t)
  | flag (b : Bool) : Shape t (.flag b)
  | double (x : Binary64) : Shape t (.double x)
  | unsigned (n : Nat) (h : u64? t = some n) : Shape t (.integer n)
  /-- Another integer. -/
  | signed (i : Int) (hnone : u64? t = none) (h : i64? t = some i) : Shape t (.integer i)
  | quoted (s : String) (r : List Char) (h : t.toList = '"' :: r) : Shape t (.text s)
  | letter (c : Char) (r : List Char) (h : t.toList = '\'' :: c :: '\'' :: r) :
    Shape t (.letter c)
  | list (items : List Value) : Shape t (.list items)
  | table (entries : List (String × Value)) : Shape t (.table entries)

theorem shape_ofWord (t : String) : Shape t (ofWord t) := by
  unfold ofWord
  dsimp only
  split
  · rename_i v hv
    split at hv
    · obtain ⟨x, -, rfl⟩ := Option.map_eq_some_iff.1 hv
      exact .double x
    · cases hv
  · cases hunsigned : u64? t with
    | some n => exact .unsigned n hunsigned
    | none =>
      cases hsigned : i64? t with
      | some i => exact .signed i hunsigned hsigned
      | none => exact .itself

theorem isBlank_of_isSpace {c : Char} (h : isSpace c = true) : isBlank c = true := by
  simp only [isSpace, Bool.or_eq_true, beq_iff_eq] at h
  rcases h with (((rfl | rfl) | rfl) | rfl) | rfl <;> decide

theorem skipSpaces_eq_self {cs : List Char} (h : trim cs = cs) : skipSpaces cs = cs := by
  refine dropWhile_eq_self_iff_head?.2 fun c hc => Bool.eq_false_iff.2 fun hspace => ?_
  have hblank := (trim_eq_self_iff.1 h).1 c hc
  rw [isBlank_of_isSpace hspace] at hblank
  cases hblank

theorem isSpace_of_isSeparator {c : Char} (h : isSeparator c = true) : isSpace c = false := by
  simp only [isSeparator, Bool.or_eq_true, beq_iff_eq] at h
  rcases h with (((rfl | rfl) | rfl) | rfl) | rfl <;> decide

/-- Behind a bare word stands nothing only if it is the whole text. -/
theorem takeWhile_of_skipSpaces {cs : List Char}
    (h : skipSpaces (cs.dropWhile fun c => !isSeparator c) = []) :
    (cs.takeWhile fun c => !isSeparator c) = cs := by
  have hrest : (cs.dropWhile fun c => !isSeparator c) = [] := by
    cases hcs : cs.dropWhile fun c => !isSeparator c with
    | nil => rfl
    | cons c r =>
      have hc : isSeparator c = true := by
        have hhead := List.head?_dropWhile_not (fun c => !isSeparator c) cs
        rw [hcs] at hhead
        simpa using hhead
      rw [hcs, skipSpaces, List.dropWhile_cons_of_neg] at h
      · cases h
      · rw [isSpace_of_isSeparator hc]
        decide
  have happend : (cs.takeWhile fun c => !isSeparator c) ++
      (cs.dropWhile fun c => !isSeparator c) = cs := List.takeWhile_append_dropWhile
  rwa [hrest, List.append_nil] at happend

/-- What a text is that is a value as a whole. -/
theorem shape_of_value? {fuel : Nat} {v : Value} (ht : trim t.toList = t.toList)
    (h : value? (fuel + 1) t.toList = some (v, [])) : Shape t v := by
  rw [value?, skipSpaces_eq_self ht] at h
  obtain ⟨⟨w, rest⟩, htaken, hpair⟩ := Option.map_eq_some_iff.1 h
  obtain ⟨rfl, hrest⟩ := Prod.mk.inj hpair
  -- the first characters tell what kind of value it is
  split at htaken
  · cases htaken
    exact .flag true
  · cases htaken
    exact .flag false
  · obtain ⟨p, -, hp⟩ := Option.map_eq_some_iff.1 htaken
    cases hp
    exact .table p.1
  · obtain ⟨p, -, hp⟩ := Option.map_eq_some_iff.1 htaken
    cases hp
    exact .list p.1
  · rename_i r hr
    obtain ⟨p, -, hp⟩ := Option.map_eq_some_iff.1 htaken
    cases hp
    exact .quoted _ r hr
  · rename_i c r hr
    obtain ⟨rfl, -⟩ := Prod.mk.inj (Option.some.inj htaken)
    exact .letter c r hr
  · cases htaken
  · obtain ⟨rfl, rfl⟩ := Prod.mk.inj (Option.some.inj htaken)
    rw [takeWhile_of_skipSpaces hrest, ht, String.ofList_toList]
    exact shape_ofWord t

/-- A variable says what its text is as a value, or its text. -/
theorem shape_read (ht : trim t.toList = t.toList) : Shape t (read t) := by
  rw [read, ht]
  split
  · rename_i v hv
    exact shape_of_value? ht hv
  · rw [String.ofList_toList]
    exact .itself

/-- The characters that a value may start with which is no bare word. -/
def openers : List Char := ['t', 'f', '\x7b', '[', '"', '\'']

/-- A text without the characters that other values are written with is a bare word. -/
theorem value?_word {fuel : Nat} {cs : List Char} (ht : trim cs = cs)
    (hstart : ∀ c ∈ cs.head?, c ∉ openers)
    (hsep : ∀ c ∈ cs, isSeparator c = false) :
    value? (fuel + 1) cs = some (ofWord (.ofList cs), []) := by
  have hword : (cs.takeWhile fun c => !isSeparator c) = cs ∧
      (cs.dropWhile fun c => !isSeparator c) = [] := by
    have hrun := @span_run (fun c => !isSeparator c) cs [] (fun c hc => by simp [hsep c hc])
      (by simp)
    rwa [List.append_nil] at hrun
  rw [value?, skipSpaces_eq_self ht]
  -- the first seven kinds of values start with an opener
  split
  · exact absurd (hstart _ rfl) (by decide)
  · exact absurd (hstart _ rfl) (by decide)
  · exact absurd (hstart _ rfl) (by decide)
  · exact absurd (hstart _ rfl) (by decide)
  · exact absurd (hstart _ rfl) (by decide)
  · exact absurd (hstart _ rfl) (by decide)
  · exact absurd (hstart _ rfl) (by decide)
  · dsimp only
    rw [hword.1, hword.2, ht]
    rfl

theorem read_word (ht : trim t.toList = t.toList) (hstart : ∀ c ∈ t.toList.head?, c ∉ openers)
    (hsep : ∀ c ∈ t.toList, isSeparator c = false) : read t = ofWord t := by
  rw [read, ht, value?_word ht hstart hsep, String.ofList_toList]

/-- A number without sign is read as that number. -/
theorem read_of_u64? (ht : trim t.toList = t.toList) {n : Nat} (h : u64? t = some n) :
    read t = .integer n := by
  -- none of the characters that other values are written with is in the text
  have hother {c x : Char} (hc : c ∈ t.toList) (hdigit : x.isDigit = false) (hplus : x ≠ '+') :
      c ≠ x := by
    rcases mem_of_u64? h c hc with hc | rfl
    · exact ne_of_isDigit hc hdigit
    · exact hplus.symm
  have hstart : ∀ c ∈ t.toList.head?, c ∉ openers := by
    intro c hhead hc
    simp only [openers, List.mem_cons, List.not_mem_nil, or_false] at hc
    rcases hc with rfl | rfl | rfl | rfl | rfl | rfl <;>
      exact hother (List.mem_of_mem_head? hhead) (by decide) (by decide) rfl
  have hsep : ∀ c ∈ t.toList, isSeparator c = false := by
    intro c hc
    refine Bool.eq_false_iff.2 fun hc' => ?_
    simp only [isSeparator, Bool.or_eq_true, beq_iff_eq] at hc'
    rcases hc' with (((rfl | rfl) | rfl) | rfl) | rfl <;>
      exact hother hc (by decide) (by decide) rfl
  have hdot : '.' ∉ t.toList := fun hc => hother hc (by decide) (by decide) rfl
  have hword : ofWord t = .integer n := by
    simp [ofWord, hdot, h]
  rw [read_word ht hstart hsep, hword]

/-- Zeros in front of a number are lost. -/
example : read "007" = .integer 7 := rfl

end Settings.Variable

end CloudClient
