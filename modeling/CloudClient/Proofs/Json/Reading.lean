import CloudClient.Json.Record

/-!
# Reading — laws of record readers

What is known of a value that a reader of records has accepted, and what a reader gives for
a value that was written.

* `Record.read_induction`: what setting fields keeps holds of every record that is read.
* `Record.nullable_opt`, `Record.list_map`: a reader that gives back what was written does so
  in options and lists.
-/

namespace CloudClient

/-! ## Values in values -/

/-- A value stands in another: it is the other, or stands in an element or a member of it. -/
inductive Json.Contains : Json → Json → Prop
  | self (v : Json) : Contains v v
  | item {items : List Json} {w u : Json} (hw : w ∈ items) (h : Contains w u) :
    Contains (.arr items) u
  | member {members : List (String × Json)} {e : String × Json} {u : Json} (he : e ∈ members)
    (h : Contains e.2 u) : Contains (.obj members) u

theorem Json.Contains.trans {v w u : Json} (h : v.Contains w) (hw : w.Contains u) :
    v.Contains u := by
  induction h with
  | self v => exact hw
  | item hmem _ ih => exact .item hmem (ih hw)
  | member hmem _ ih => exact .member hmem (ih hw)

theorem Json.contains_str_iff {s : String} {w : Json} :
    (Json.str s).Contains w ↔ w = .str s := by
  constructor
  · rintro ⟨⟩
    rfl
  · rintro rfl
    exact .self _

theorem Json.contains_obj_iff {members : List (String × Json)} {w : Json} :
    (Json.obj members).Contains w ↔ w = .obj members ∨ ∃ e ∈ members, e.2.Contains w := by
  constructor
  · rintro (_ | _ | ⟨he, h⟩)
    · exact .inl rfl
    · exact .inr ⟨_, he, h⟩
  · rintro (rfl | ⟨e, he, h⟩)
    · exact .self _
    · exact .member he h

/-! ## Readings -/

namespace Record

variable {α β : Type}

theorem bind_eq_ok {x : Reading α} {f : α → Reading β} {b : β} (h : (x >>= f) = .ok b) :
    ∃ a, x = .ok a ∧ f a = .ok b := by
  cases x with
  | error e => cases h
  | ok a => exact ⟨a, rfl, h⟩

theorem map_eq_ok {x : Reading α} {f : α → β} {b : β} (h : x.map f = .ok b) :
    ∃ a, x = .ok a ∧ f a = b := by
  cases x with
  | error e => cases h
  | ok a => exact ⟨a, rfl, Except.ok.inj h⟩

theorem nullable_eq_ok {read : Json → Reading α} {v : Json} {o : Option α}
    (h : nullable read v = .ok o) : ∀ a ∈ o, read v = .ok a := by
  unfold nullable at h
  split at h
  · obtain rfl := Except.ok.inj h
    nofun
  · obtain ⟨a, ha, rfl⟩ := map_eq_ok h
    rintro _ ⟨⟩
    exact ha

theorem list_eq_ok {read : Json → Reading α} {v : Json} {as : List α}
    (h : list read v = .ok as) : ∀ a ∈ as, ∃ w, read w = .ok a := by
  unfold list at h
  split at h
  · rename_i items
    induction items generalizing as with
    | nil =>
      obtain rfl := Except.ok.inj h
      nofun
    | cons w items ih =>
      rw [List.mapM_cons] at h
      obtain ⟨a, ha, h⟩ := bind_eq_ok h
      obtain ⟨rest, hrest, h⟩ := bind_eq_ok h
      obtain rfl := Except.ok.inj h
      exact List.forall_mem_cons.2 ⟨⟨w, ha⟩, ih hrest⟩
  · cases h

/-- What holds of a blank record and stays when a field is set holds of every record that is
read, and so does what rests on the values of the fields. -/
theorem read_induction {names : List String} {blank : α} {set : String → Json → α → Reading α}
    {P : α → Prop} (hblank : P blank) {v : Json}
    (hset : ∀ {name w a a'}, v.Contains w → P a → set name w a = .ok a' → P a') {a : α}
    (h : read names blank set v = .ok a) : P a := by
  unfold read at h
  split at h
  · rename_i members
    have hsets : ∀ e ∈ members, ∀ {a a'}, P a → set e.1 e.2 a = .ok a' → P a' :=
      fun e he a a' => hset (.member he (.self _))
    unfold setByName at h
    clear hset
    induction members generalizing blank with
    | nil =>
      obtain rfl := Except.ok.inj h
      exact hblank
    | cons e members ih =>
      obtain ⟨hfirst, hrest⟩ := List.forall_mem_cons.1 hsets
      rw [List.foldlM_cons] at h
      obtain ⟨a', ha', h⟩ := bind_eq_ok h
      exact ih (hfirst hblank ha') h hrest
  · rename_i items
    have hsets : ∀ w ∈ items, ∀ {name a a'}, P a → set name w a = .ok a' → P a' :=
      fun w hw name a a' => hset (.item hw (.self w))
    clear hset
    induction items generalizing names blank with
    | nil =>
      obtain rfl : blank = a := by simpa [setByPosition] using h
      exact hblank
    | cons w items ih =>
      obtain ⟨hfirst, hrest⟩ := List.forall_mem_cons.1 hsets
      cases names with
      | nil => cases h
      | cons name names =>
        obtain ⟨a', ha', h⟩ := bind_eq_ok h
        exact ih (hfirst hblank ha') h hrest
  · cases h

theorem fits_of_i64? {v : Json} {i : Int} (h : v.i64? = some i) : Text.fitsI64 i = true := by
  unfold Json.i64? at h
  split at h
  · split at h
    · rename_i hrange
      obtain rfl := Option.some.inj h
      exact decide_eq_true hrange
    · cases h
  · cases h

theorem fits_of_integer {v : Json} {i : Int} (h : integer v = .ok i) : Text.fitsI64 i = true := by
  unfold integer at h
  split at h
  · rename_i n hn
    obtain rfl := Except.ok.inj h
    exact fits_of_i64? hn
  · cases h

theorem integer_int {i : Int} (h : Text.fitsI64 i = true) : integer (.int i) = .ok i := by
  have hrange := of_decide_eq_true h
  unfold integer Json.i64? Json.int
  dsimp only
  rw [if_pos hrange]

theorem nullable_opt {read : Json → Reading α} {write : α → Json} {o : Option α}
    (hwrite : ∀ a ∈ o, write a ≠ .null) (h : ∀ a ∈ o, read (write a) = .ok a) :
    nullable read (.opt write o) = .ok o := by
  cases o with
  | none => rfl
  | some a =>
    have hread : nullable read (write a) = (read (write a)).map some := by
      have hwrite := hwrite a rfl
      unfold nullable
      split
      · contradiction
      · rfl
    rw [Json.opt, hread, h a rfl]
    rfl

theorem list_map {read : Json → Reading α} {write : β → Json} {f : β → α} {bs : List β}
    (h : ∀ b ∈ bs, read (write b) = .ok (f b)) :
    list read (.arr (bs.map write)) = .ok (bs.map f) := by
  show (bs.map write).mapM read = .ok (bs.map f)
  induction bs with
  | nil => rfl
  | cons b bs ih =>
    obtain ⟨hb, hbs⟩ := List.forall_mem_cons.1 h
    rw [List.map_cons, List.mapM_cons, hb, ih hbs]
    rfl

end Record

end CloudClient
