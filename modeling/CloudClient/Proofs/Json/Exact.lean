import CloudClient.Proofs.Json.RoundTrip

/-!
# Reading doubles exactly

A service may read the doubles in JSON text more exactly than the client does, each as the
one nearest to its numeral.  Such a reader finds every value whose numbers are integers of 64
bits and finite doubles, however deep it nests.

* `Json.exactNumber`: the number at the start of a text.
* `Json.readsBack_exactNumber`: the text of a number is read as the number.
* `Json.readAll?_compact`: the round trip of documents.
-/

namespace CloudClient.Json

def isNumeral (c : Char) : Bool :=
  (Text.digit? c).isSome || c == '.' || c == '-' || c == '+' || c == 'e' || c == 'E'

/-- An integer if it fits 64 bits, else the double nearest to the numeral. -/
def exactNumber (cs : List Char) : Read Number :=
  let text := String.ofList (cs.takeWhile isNumeral)
  match (Text.i64? text).map Number.int <|> (Decimal.double? text).map Number.double with
  | some n => .ok (n, cs.dropWhile isNumeral)
  | none => .error ⟨.badNumber, cs⟩

theorem exactNumber_append {text : String} {n : Number} {rest : List Char}
    (hnumeral : ∀ c ∈ text.toList, isNumeral c = true) (hrest : Follows rest)
    (h : ((Text.i64? text).map Number.int <|> (Decimal.double? text).map Number.double) =
      some n) :
    exactNumber (text.toList ++ rest) = .ok (n, rest) := by
  obtain ⟨htake, hdrop⟩ := Text.span_run hnumeral fun c hc => by
    rcases hrest c hc with rfl | rfl | rfl <;> decide
  rw [exactNumber, htake, hdrop, String.ofList_toList, h]

theorem isNumeral_of_isDigit {c : Char} (h : c.isDigit = true) : isNumeral c = true := by
  simp [isNumeral, Text.digit?_of_isDigit h]

/-- What has a point or an exponent is no integer. -/
theorem i64?_eq_none {s : String} (h : '.' ∈ s.toList ∨ 'e' ∈ s.toList) : Text.i64? s = none := by
  have hread : Text.integer? s.toList = none := by
    rw [Option.eq_none_iff_forall_ne_some]
    intro i hi
    have hmem := Text.mem_of_integer? hi
    rcases h with h | h
    · exact absurd (hmem '.' h) (by decide)
    · exact absurd (hmem 'e' h) (by decide)
  rw [Text.i64?, hread]
  rfl

/-- The text of an integer of 64 bits or of a finite double is read as the number. -/
theorem readsBack_exactNumber {n : Number} (h : (Json.num n).Portable) :
    ReadsBack exactNumber n := by
  cases n with
  | int i =>
    have hfits : Text.fitsI64 i = true := h
    refine ⟨(readsBack_int hfits).start, fun hrest => exactNumber_append ?_ hrest ?_⟩
    · intro c hc
      rcases Text.mem_ofInt hc with hc | rfl
      · exact isNumeral_of_isDigit hc
      · decide
    · rw [numberText, Text.i64?_ofInt hfits]
      rfl
  | double x =>
    have hfinite : x.isFinite = true := h
    refine ⟨?_, fun hrest => exactNumber_append ?_ hrest ?_⟩
    · obtain ⟨c, r, hcs, hc⟩ := Decimal.exists_cons_text Decimal.json hfinite
      refine ⟨c, r, hcs, hc.imp_right fun hdigit => ?_⟩
      rw [Text.digit?_of_isDigit hdigit]
      rfl
    · intro c hc
      rcases Decimal.mem_json hfinite hc with hc | rfl | rfl | rfl | rfl
      · exact isNumeral_of_isDigit hc
      all_goals decide
    · -- a point or an exponent keeps a whole double from being taken for an integer
      rw [numberText, i64?_eq_none (Decimal.marked_json hfinite),
        Decimal.double?_text Decimal.json hfinite]
      rfl

mutual

theorem legible_of_portable : ∀ v : Json, v.Portable → v.Legible exactNumber
  | .num _, h => readsBack_exactNumber h
  | .arr items, h => legibleItems_of_portable items h
  | .obj members, h => legibleMembers_of_portable members h
  | .null, _ | .bool _, _ | .str _, _ => trivial

theorem legibleItems_of_portable : ∀ vs : List Json, PortableItems vs →
    LegibleItems exactNumber vs
  | [], _ => trivial
  | v :: r, ⟨hv, hr⟩ => ⟨legible_of_portable v hv, legibleItems_of_portable r hr⟩

theorem legibleMembers_of_portable : ∀ es : List (String × Json), PortableMembers es →
    LegibleMembers exactNumber es
  | [], _ => trivial
  | (_, v) :: r, ⟨_, hv, hr⟩ => ⟨legible_of_portable v hv, legibleMembers_of_portable r hr⟩

end

/-! ## Documents -/

/-- The value of a document, its doubles exact, however deep it nests. -/
def readAll? (text : String) : Option Json := readWithin? exactNumber text.toList.length text

/-- Compact text is read as the value that it was written for. -/
theorem readAll?_compact {v : Json} (hordered : v.Ordered) (hportable : v.Portable) :
    readAll? v.compact = some v := by
  refine readWithin?_compact hordered (legible_of_portable v hportable) ?_
  rw [compact, String.toList_ofList]
  exact nesting_le v

end CloudClient.Json
