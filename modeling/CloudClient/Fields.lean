/-!
# Fields — named values in key order

A list of named values, kept in strictly increasing key order without
duplicates.  Keys are ordered by code points, which is also the order of their
UTF-8 bytes.  JSON objects, filter branches and settings are all kept this way,
so that equal contents are equal lists.

* `find?_insert`: reading back after `insert`.
* `sorted_insert`, `sorted_union`: the order is kept.
* `ofList_of_sorted`: what is in order stays as it is.
-/

namespace CloudClient

/-- Named values; the operations below keep them in key order. -/
abbrev Fields (α : Type) := List (String × α)

namespace Fields

variable {α : Type}

/-- Keys are strictly increasing. -/
def Sorted (fs : Fields α) : Prop :=
  fs.Pairwise fun a b => a.1 < b.1

def find? (k : String) : Fields α → Option α
  | [] => none
  | (j, v) :: r => if j = k then some v else find? k r

/-- Puts a value under a key, replacing what was there. -/
def insert (k : String) (v : α) : Fields α → Fields α
  | [] => [(k, v)]
  | (j, w) :: r =>
    if j = k then (k, v) :: r
    else if k < j then (k, v) :: (j, w) :: r
    else (j, w) :: insert k v r

/-- The fields of a list of entries; of two entries with one key the later wins. -/
def ofList (entries : List (String × α)) : Fields α :=
  entries.foldl (fun fs (k, v) => insert k v fs) []

/-- Adds every entry of `upper` over `lower`. -/
def union (lower upper : Fields α) : Fields α :=
  upper.foldl (fun fs (k, v) => insert k v fs) lower

def keys (fs : Fields α) : List String := fs.map (·.1)

/-! ## Laws -/

@[simp] theorem find?_nil (k : String) : find? k ([] : Fields α) = none := rfl

theorem find?_eq_none {k : String} {fs : Fields α} (h : k ∉ fs.map Prod.fst) :
    find? k fs = none := by
  induction fs with
  | nil => rfl
  | cons e r ih =>
    obtain ⟨hk, hr⟩ := List.ne_and_not_mem_of_not_mem_cons h
    rw [find?, if_neg hk.symm, ih hr]

theorem find?_insert (k j : String) (v : α) (fs : Fields α) :
    find? j (insert k v fs) = if k = j then some v else find? j fs := by
  induction fs with
  | nil => rfl
  | cons e r ih =>
    obtain ⟨i, w⟩ := e
    by_cases hik : i = k
    · subst hik
      by_cases hj : i = j <;> simp [insert, find?, hj]
    · by_cases hlt : k < i
      · simp [insert, hik, hlt, find?]
      · by_cases hij : i = j
        · subst hij
          simp [insert, hik, hlt, find?, Ne.symm hik]
        · simp [insert, hik, hlt, find?, hij, ih]

theorem mem_insert {k : String} {v : α} {fs : Fields α} {e : String × α}
    (h : e ∈ insert k v fs) : e = (k, v) ∨ e ∈ fs := by
  induction fs with
  | nil => simpa [insert] using h
  | cons f r ih =>
    obtain ⟨j, w⟩ := f
    simp only [insert] at h
    split at h
    · rcases List.mem_cons.1 h with h | h
      · exact .inl h
      · exact .inr (List.mem_cons_of_mem _ h)
    · split at h
      · rcases List.mem_cons.1 h with h | h
        · exact .inl h
        · exact .inr h
      · rcases List.mem_cons.1 h with h | h
        · exact .inr (h ▸ List.mem_cons_self)
        · rcases ih h with h | h
          · exact .inl h
          · exact .inr (List.mem_cons_of_mem _ h)

theorem sorted_insert {k : String} {v : α} {fs : Fields α} (h : Sorted fs) :
    Sorted (insert k v fs) := by
  induction fs with
  | nil => simp [insert, Sorted]
  | cons e r ih =>
    obtain ⟨j, w⟩ := e
    have hr := List.pairwise_cons.1 h
    simp only [insert]
    split
    · rename_i hjk
      subst hjk
      exact List.pairwise_cons.2 hr
    · split
      · rename_i hlt
        refine List.pairwise_cons.2 ⟨fun e he => ?_, h⟩
        rcases List.mem_cons.1 he with rfl | he
        · exact hlt
        · exact String.lt_trans hlt (hr.1 e he)
      · rename_i hne hnlt
        refine List.pairwise_cons.2 ⟨fun e he => ?_, ih hr.2⟩
        rcases mem_insert he with rfl | he
        · have hle : j ≤ k := String.not_lt.1 hnlt
          rcases Classical.em (j < k) with hjk | hjk
          · exact hjk
          · exact absurd (String.le_antisymm hle (String.not_lt.1 hjk)) hne
        · exact hr.1 e he

/-- The entries on top are read first. -/
theorem find?_union {lower upper : Fields α} (k : String) (h : (upper.map Prod.fst).Nodup) :
    find? k (union lower upper) = (find? k upper).or (find? k lower) := by
  induction upper generalizing lower with
  | nil => rfl
  | cons e r ih =>
    obtain ⟨j, v⟩ := e
    obtain ⟨hj, hr⟩ := List.nodup_cons.1 h
    have hrest := @ih (insert j v lower) hr
    rw [find?_insert] at hrest
    refine hrest.trans ?_
    by_cases hjk : j = k
    · -- the key does not come again behind the head
      have hnone : find? k r = none := by
        subst hjk
        exact find?_eq_none hj
      simp [find?, hjk, hnone]
    · simp [find?, hjk]

theorem sorted_union {lower upper : Fields α} (h : Sorted lower) : Sorted (union lower upper) := by
  induction upper generalizing lower with
  | nil => exact h
  | cons e r ih => exact ih (sorted_insert h)

theorem insert_append {k : String} {fs : Fields α} (h : ∀ e ∈ fs, e.1 < k) (v : α) :
    insert k v fs = fs ++ [(k, v)] := by
  induction fs with
  | nil => rfl
  | cons e r ih =>
    obtain ⟨j, w⟩ := e
    have hlt : j < k := h (j, w) List.mem_cons_self
    have hne : j ≠ k := fun heq => String.lt_irrefl k (heq ▸ hlt)
    have hnot : ¬ k < j := fun hgt => String.lt_irrefl k (String.lt_trans hgt hlt)
    have hrest := ih fun e he => h e (List.mem_cons_of_mem _ he)
    rw [insert, if_neg hne, if_neg hnot, hrest]
    rfl

theorem union_of_sorted {lower upper : Fields α} (h : Sorted (lower ++ upper)) :
    union lower upper = lower ++ upper := by
  induction upper generalizing lower with
  | nil => exact (List.append_nil lower).symm
  | cons e r ih =>
    obtain ⟨k, v⟩ := e
    have hsorted : Sorted (lower ++ [(k, v)] ++ r) := by
      rw [List.append_assoc]
      exact h
    have hinsert : insert k v lower = lower ++ [(k, v)] := by
      refine insert_append (fun e he => ?_) v
      exact (List.pairwise_append.1 h).2.2 e he (k, v) List.mem_cons_self
    show union (insert k v lower) r = _
    rw [hinsert, ih hsorted, List.append_assoc]
    rfl

theorem ofList_of_sorted {fs : Fields α} (h : Sorted fs) : ofList fs = fs :=
  @union_of_sorted α [] fs h

theorem ofList_concat (entries : List (String × α)) (k : String) (v : α) :
    ofList (entries ++ [(k, v)]) = insert k v (ofList entries) := by
  rw [ofList, List.foldl_append]
  rfl

end Fields

end CloudClient
