import CloudClient.Proofs.Rest
import CloudClient.Proofs.XmlRpc.Call

/-!
# Windows of listings

A call may ask for a part of a listing only: so many objects, behind so many others.  Either
wire format has a place for it, and each decides by itself when there is something to say.  A
limit is carried by both, with the offset; an offset without a limit by REST alone.

* `XmlRpc.window_read` and `Rest.window_read`: what either format carries.
* `Window.same_iff`: for which calls the two carry the same.
-/

namespace CloudClient

/-- A part of a listing: how many objects are skipped, and how many there are at most. -/
structure Window where
  offset : Nat
  limit : Nat
deriving DecidableEq, Repr

namespace Window

def count? : Json → Option Nat
  | .num (.int (.ofNat n)) => some n
  | _ => none

def ofEntry? (entry : Json) : Option Window := do
  let offset ← (entry.get? "offset").bind count?
  let limit ← (entry.get? "limit").bind count?
  return ⟨offset, limit⟩

def ofParameter? (text : String) : Option Window := do
  let (offset, limit) ← Text.splitOnce? (· == ',') text.toList
  return ⟨← Text.natural? offset, ← Text.natural? limit⟩

theorem ofParameter?_join (offset limit : Nat) :
    ofParameter? (Text.ofNat offset ++ "," ++ Text.ofNat limit) = some ⟨offset, limit⟩ := by
  have hcomma : ∀ c ∈ Nat.toDigits 10 offset, (c == ',') = false := fun c hc =>
    beq_false_of_ne (Text.ne_of_isDigit (Text.isDigit_toDigits c hc) (by decide))
  have htext : (Text.ofNat offset ++ "," ++ Text.ofNat limit).toList =
      Nat.toDigits 10 offset ++ ',' :: Nat.toDigits 10 limit := by
    simp [Text.ofNat, String.toList_append]
  rw [ofParameter?, htext, Text.splitOnce?_append hcomma rfl]
  simp [Text.natural?_toDigits]

end Window

/-! ## What either format carries -/

/-- The window that a header container names. -/
def XmlRpc.windowOf? (container : Fields Json) : Option Window :=
  (Fields.find? "resultLimit" container).bind Window.ofEntry?

def Rest.windowOf? (address : String) : Option Window :=
  (parameter? "resultLimit" address).bind Window.ofParameter?

/-- A header container names a window where there is a limit. -/
theorem XmlRpc.windowOf?_container {r : Request}
    (hfree : Fields.find? "resultLimit" r.headers = none) :
    windowOf? (container r) = r.limit.map fun limit => ⟨r.offset, limit⟩ := by
  rw [windowOf?, find?_window hfree, window?]
  cases r.limit <;> rfl

namespace Rest

variable {r : Request} (hendpoint : Unmarked r.endpoint) (hservice : Unmarked r.service)
  (hmethod : Unmarked r.method) {u : Url} (h : url r = .ok u)

include hendpoint hservice hmethod h

theorem parameter?_window : parameter? "resultLimit" u.text = window? r := by
  rw [parameter?, decode_writtenQuery hendpoint hservice hmethod h, parameters]
  cases r.mask? <;> cases r.filter? <;> cases window? r <;> rfl

/-- An address names a window where there is a limit or an offset. -/
theorem windowOf?_url : windowOf? u.text =
    if r.limit.isSome || 0 < r.offset then some ⟨r.offset, r.limit.getD 0⟩ else none := by
  rw [windowOf?, parameter?_window hendpoint hservice hmethod h, window?]
  split
  · rw [Option.bind_some, Window.ofParameter?_join]
  · rfl

end Rest

/-! ## Agreement -/

/-- Both formats carry the window of a listing with a limit, and neither carries one if nothing
is to be skipped; to skip objects without a limit is asked for in REST alone. -/
theorem Window.same_iff (r : Request) (hendpoint : Rest.Unmarked r.endpoint)
    (hservice : Rest.Unmarked r.service) (hmethod : Rest.Unmarked r.method)
    (hfree : Fields.find? "resultLimit" r.headers = none) (u : Url) (h : Rest.url r = .ok u) :
    (∀ limit, r.limit = some limit →
        XmlRpc.windowOf? (XmlRpc.container r) = some ⟨r.offset, limit⟩ ∧
          Rest.windowOf? u.text = some ⟨r.offset, limit⟩) ∧
      ((Fields.find? "resultLimit" (XmlRpc.container r)).isSome =
          (Rest.parameter? "resultLimit" u.text).isSome ↔ (r.limit.isSome = true ∨ r.offset = 0)) ∧
      (XmlRpc.windowOf? (XmlRpc.container r) = Rest.windowOf? u.text ↔
        (r.limit.isSome = true ∨ r.offset = 0)) := by
  have hcontainer := XmlRpc.windowOf?_container hfree
  have hurl := Rest.windowOf?_url hendpoint hservice hmethod h
  have hentry := XmlRpc.find?_window hfree
  have hparameter := Rest.parameter?_window hendpoint hservice hmethod h
  -- one side asks for a limit, the other one for a limit or an offset
  rw [hcontainer, hurl, hentry, hparameter, XmlRpc.window?, Rest.window?]
  refine ⟨fun limit hlimit => ?_, ?_⟩
  · rw [hlimit]
    exact ⟨rfl, rfl⟩
  · cases r.limit with
    | some limit => simp
    | none =>
      rcases Nat.eq_zero_or_pos r.offset with hzero | hpos
      · simp [hzero]
      · have hne : r.offset ≠ 0 := by omega
        simp [hpos, hne]

theorem Window.same_iff_page :
    let r : Request :=
      { Request.plain "http://api.test/v3" "SoftLayer_Account" "getVirtualGuests" "client/1" with
        limit := some 50
        offset := 20 }
    ∃ u, Rest.url r = .ok u ∧ XmlRpc.windowOf? (XmlRpc.container r) = Rest.windowOf? u.text := by
  intro r
  obtain ⟨u, hurl⟩ := @Rest.exists_url r (by decide +kernel)
  have hsame := Window.same_iff r (by decide) (by decide) (by decide) rfl u hurl
  exact ⟨u, hurl, hsame.2.2.2 (.inl rfl)⟩

/-- Twenty objects are to be skipped, and the header container says nothing of it. -/
theorem Window.offset_dropped :
    let r : Request :=
      { Request.plain "http://api.test/v3" "SoftLayer_Account" "getVirtualGuests" "client/1" with
        offset := 20 }
    Fields.find? "resultLimit" (XmlRpc.container r) = none ∧
      ∃ u, Rest.url r = .ok u ∧ Rest.windowOf? u.text = some ⟨20, 0⟩ := by
  intro r
  obtain ⟨u, hurl⟩ := @Rest.exists_url r (by decide +kernel)
  have hwindow := Rest.windowOf?_url (by decide) (by decide) (by decide) hurl
  exact ⟨rfl, u, hurl, hwindow⟩

end CloudClient
