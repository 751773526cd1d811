import CloudClient.Text.Blank

/-!
# Searching text

Substring tests and splits, on character lists.  Every split gives back pieces
whose concatenation, with the separator put back, is the text.
-/

namespace CloudClient.Text

def occurs (needle : List Char) : List Char → Bool
  | [] => needle.isEmpty
  | c :: r => needle.isPrefixOf (c :: r) || occurs needle r

def contains (s needle : String) : Bool :=
  occurs needle.toList s.toList

def startsWith (s head : String) : Bool :=
  head.toList.isPrefixOf s.toList

/-- The text after `head`, if it starts with it. -/
def dropHead? (head cs : List Char) : Option (List Char) :=
  if head.isPrefixOf cs then some (cs.drop head.length) else none

/-- The text before `tail`, if it ends with it. -/
def dropTail? (tail cs : List Char) : Option (List Char) :=
  if tail.isSuffixOf cs then some (cs.take (cs.length - tail.length)) else none

/-- The parts before and after the first character that satisfies `p`. -/
def splitOnce? (p : Char → Bool) : List Char → Option (List Char × List Char)
  | [] => none
  | c :: r =>
    if p c then some ([], r) else (splitOnce? p r).map fun (a, b) => (c :: a, b)

/-- The pieces between the characters that satisfy `p`; there is always one. -/
def splitAll (p : Char → Bool) : List Char → List (List Char)
  | [] => [[]]
  | c :: r =>
    if p c then [] :: splitAll p r
    else
      match splitAll p r with
      | [] => [[c]]
      | piece :: rest => (c :: piece) :: rest

/-- A line without the carriage return at its end. -/
def dropReturn (line : List Char) : List Char :=
  (dropTail? ['\r'] line).getD line

/-- The lines of a text: a line ends with `\n` or `\r\n`, and the text after the last
line end is a line if there is any. -/
def lines (cs : List Char) : List (List Char) :=
  let pieces := splitAll (· == '\n') cs
  pieces.dropLast.map dropReturn ++ (pieces.getLast?.filter (!·.isEmpty)).toList

def splitString (sep : Char) (s : String) : List String :=
  (splitAll (· == sep) s.toList).map .ofList

def join (sep : String) (parts : List String) : String :=
  sep.intercalate parts

/-- A text in lower case, where only ASCII letters have case. -/
def asciiLower (s : String) : String :=
  .ofList (s.toList.map Char.toLower)

/-- Equality of texts up to the case of ASCII letters. -/
def equalIgnoringCase (a b : String) : Bool :=
  asciiLower a == asciiLower b

/-! ## Laws -/

theorem startsWith_iff {s head : String} : startsWith s head = true ↔ ∃ rest, s = head ++ rest := by
  rw [startsWith, List.isPrefixOf_iff_prefix]
  constructor
  · rintro ⟨rest, h⟩
    refine ⟨.ofList rest, String.toList_inj.1 ?_⟩
    rw [String.toList_append, String.toList_ofList, h]
  · rintro ⟨rest, rfl⟩
    rw [String.toList_append]
    exact List.prefix_append _ _

theorem equalIgnoringCase_iff {a b : String} :
    equalIgnoringCase a b = true ↔ a.toList.map Char.toLower = b.toList.map Char.toLower := by
  rw [equalIgnoringCase, beq_iff_eq, asciiLower, asciiLower, String.ofList_inj]

theorem length_splitOnce {p : Char → Bool} {cs a b : List Char}
    (h : splitOnce? p cs = some (a, b)) : b.length < cs.length := by
  induction cs generalizing a with
  | nil => simp [splitOnce?] at h
  | cons c r ih =>
    simp only [splitOnce?] at h
    split at h
    · simp only [Option.some.injEq, Prod.mk.injEq] at h
      simp [h.2]
    · obtain ⟨⟨x, y⟩, hs, he⟩ := Option.map_eq_some_iff.1 h
      obtain ⟨-, rfl⟩ := Prod.mk.inj he
      exact Nat.lt_succ_of_lt (ih hs)

theorem splitAll_ne_nil (p : Char → Bool) (cs : List Char) : splitAll p cs ≠ [] := by
  cases cs with
  | nil => simp [splitAll]
  | cons c r =>
    simp only [splitAll]
    split
    · simp
    · split <;> simp

theorem splitAll_of_none {p : Char → Bool} {cs : List Char} (h : ∀ c ∈ cs, p c = false) :
    splitAll p cs = [cs] := by
  induction cs with
  | nil => rfl
  | cons c r ih =>
    have hr := ih fun x hx => h x (List.mem_cons_of_mem _ hx)
    simp [splitAll, h c List.mem_cons_self, hr]

theorem not_mem_of_mem_splitAll {p : Char → Bool} {cs piece : List Char}
    (h : piece ∈ splitAll p cs) : ∀ c ∈ piece, p c = false := by
  induction cs generalizing piece with
  | nil => simp [splitAll] at h; simp [h]
  | cons c r ih =>
    by_cases hp : p c = true
    · simp only [splitAll, hp, if_true, List.mem_cons] at h
      rcases h with rfl | h
      · simp
      · exact ih h
    · obtain ⟨first, rest, hsplit⟩ := List.exists_cons_of_ne_nil (splitAll_ne_nil p r)
      rw [splitAll, if_neg hp, hsplit] at h
      rcases List.mem_cons.1 h with rfl | h
      · intro x hx
        rcases List.mem_cons.1 hx with rfl | hx
        · simpa using hp
        · exact ih (hsplit ▸ List.mem_cons_self) x hx
      · exact ih (hsplit ▸ List.mem_cons_of_mem _ h)

theorem intercalate_splitAll (sep : Char) (cs : List Char) :
    [sep].intercalate (splitAll (· == sep) cs) = cs := by
  induction cs with
  | nil => rfl
  | cons c r ih =>
    obtain ⟨first, rest, hsplit⟩ := List.exists_cons_of_ne_nil (splitAll_ne_nil (· == sep) r)
    rw [hsplit] at ih
    by_cases hc : c = sep
    · subst hc
      simp [splitAll, hsplit, List.intercalate_cons_cons, ih]
    · simp only [splitAll, beq_iff_eq, hc, if_false, hsplit]
      cases rest <;> simp_all [List.intercalate_cons_cons]

end CloudClient.Text
