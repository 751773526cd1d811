import CloudClient.Call.Transport
import CloudClient.Proofs.XmlRpc.RoundTrip

/-!
# Replies — what comes of an answer

A reply is a status, a total and a body, and each wire format judges them in its own
order: XML-RPC looks for a fault before it looks at the status, REST at the status before
the body.

* `XmlRpc.IsFault`, `XmlRpc.IsResult`: the documents that hold a fault or a result; no
  document is both.
* `WireFormat.Faithful`: what is promised of a reply in either format.
* `Network.read_faithfully`: every reply of a network, in both formats.
-/

namespace CloudClient

namespace Json

/-- A code as text: a string as it is, a number in decimal. -/
def word? : Json → Option String
  | .str s => some s
  | .num n => some (Json.num n).compact
  | _ => none

end Json

/-! ## Documents -/

namespace XmlRpc

open Xml (Node)

/-- The element in which a document of a reply has its result. -/
def resultNode? (root : Node) : Option Node :=
  ((root.child? "params").bind (·.child? "param")).bind (·.child? "value")

/-- A body that holds a fault: a structure with its code and its text, either of them empty
where the structure does not name it. -/
def IsFault (body code text : String) : Prop :=
  ∃ root fault held entries, Node.parse? body.toList = some root ∧
    root.isNamed "methodResponse" = true ∧ root.child? "fault" = some fault ∧
    fault.child? "value" = some held ∧ Reader.value held = .ok (.obj entries) ∧
    code = ((Fields.find? "faultCode" entries).bind Json.word?).getD "" ∧
    text = ((Fields.find? "faultString" entries).bind Json.str?).getD ""

/-- A body that holds a result and no fault; it is null where no parameter is there. -/
def IsResult (body : String) (value : Json) : Prop :=
  ∃ root, Node.parse? body.toList = some root ∧ root.isNamed "methodResponse" = true ∧
    root.child? "fault" = none ∧
    (resultNode? root = none ∧ value = .null ∨
      ∃ held, resultNode? root = some held ∧ Reader.value held = .ok value)

def IsUnreadable (body : String) : Prop :=
  (∀ code text, ¬ IsFault body code text) ∧ ∀ value, ¬ IsResult body value

theorem ofFault_obj (entries : Fields Json) :
    Reply.ofFault (.obj entries) =
      .ok (.fault (((Fields.find? "faultCode" entries).bind Json.word?).getD "")
        (((Fields.find? "faultString" entries).bind Json.str?).getD "")) := by
  show Except.ok (Reply.fault _ _) = _
  rcases Fields.find? "faultCode" entries with _ | code
  · rfl
  · cases code <;> rfl

theorem ofRoot_of_fault {root fault : Node} (hnamed : root.isNamed "methodResponse" = true)
    (hfault : root.child? "fault" = some fault) :
    Reply.ofRoot root =
      (fault.child? "value").elim (.error .faultWithoutValue)
        fun held => (Reader.value held).bind Reply.ofFault := by
  rw [Reply.ofRoot, hnamed, hfault]
  dsimp only
  cases fault.child? "value" <;> rfl

theorem ofRoot_of_no_fault {root : Node} (hnamed : root.isNamed "methodResponse" = true)
    (hfault : root.child? "fault" = none) :
    Reply.ofRoot root =
      (resultNode? root).elim (.ok (.success .null))
        fun held => (Reader.value held).map Reply.success := by
  have hresult : ((root.child? "params").bind (·.child? "param")).bind (·.child? "value") =
      resultNode? root := rfl
  rw [Reply.ofRoot, hnamed, hfault, hresult]
  dsimp only
  cases resultNode? root <;> rfl

theorem IsFault.read {body code text : String} (h : IsFault body code text) :
    Reply.read body = .ok (.fault code text) := by
  obtain ⟨root, fault, held, entries, hroot, hnamed, hfault, hheld, hvalue, rfl, rfl⟩ := h
  rw [Reply.read, hroot]
  show Reply.ofRoot root = _
  rw [ofRoot_of_fault hnamed hfault, hheld, Option.elim_some, hvalue]
  exact ofFault_obj entries

theorem IsResult.read {body : String} {value : Json} (h : IsResult body value) :
    Reply.read body = .ok (.success value) := by
  obtain ⟨root, hroot, hnamed, hfault, hvalue⟩ := h
  rw [Reply.read, hroot]
  show Reply.ofRoot root = _
  rw [ofRoot_of_no_fault hnamed hfault]
  obtain ⟨hnone, rfl⟩ | ⟨held, hheld, hvalue⟩ := hvalue
  · rw [hnone]
    rfl
  · rw [hheld, Option.elim_some, hvalue]
    rfl

theorem isUnreadable_of_read {body : String} {e : ReadError} (h : Reply.read body = .error e) :
    IsUnreadable body := by
  constructor
  · intro code text hfault
    rw [hfault.read] at h
    cases h
  · intro value hresult
    rw [hresult.read] at h
    cases h

theorem fault_of_ofRoot {root fault : Node} {reply : Reply}
    (hnamed : root.isNamed "methodResponse" = true) (hfault : root.child? "fault" = some fault)
    (h : Reply.ofRoot root = .ok reply) :
    ∃ held entries, fault.child? "value" = some held ∧ Reader.value held = .ok (.obj entries) ∧
      Reply.ofFault (.obj entries) = .ok reply := by
  rw [ofRoot_of_fault hnamed hfault] at h
  cases hheld : fault.child? "value" with
  | none =>
    rw [hheld] at h
    cases h
  | some held =>
    rw [hheld, Option.elim_some] at h
    cases hvalue : Reader.value held with
    | error e =>
      rw [hvalue] at h
      cases h
    | ok v =>
      rw [hvalue] at h
      -- only a structure is the value of a fault
      cases v with
      | obj entries => exact ⟨held, entries, rfl, hvalue, h⟩
      | null => cases h
      | bool b => cases h
      | num n => cases h
      | str s => cases h
      | arr items => cases h

theorem result_of_ofRoot {root : Node} {reply : Reply}
    (hnamed : root.isNamed "methodResponse" = true) (hfault : root.child? "fault" = none)
    (h : Reply.ofRoot root = .ok reply) :
    ∃ value, reply = .success value ∧
      (resultNode? root = none ∧ value = .null ∨
        ∃ held, resultNode? root = some held ∧ Reader.value held = .ok value) := by
  rw [ofRoot_of_no_fault hnamed hfault] at h
  cases hheld : resultNode? root with
  | none =>
    rw [hheld] at h
    obtain rfl := Except.ok.inj h
    exact ⟨.null, rfl, .inl ⟨rfl, rfl⟩⟩
  | some held =>
    rw [hheld, Option.elim_some] at h
    cases hvalue : Reader.value held with
    | error e =>
      rw [hvalue] at h
      cases h
    | ok v =>
      rw [hvalue] at h
      obtain rfl := Except.ok.inj h
      exact ⟨v, rfl, .inr ⟨held, rfl, hvalue⟩⟩

/-- What a body is read as is what it is. -/
theorem isFault_or_isResult {body : String} {reply : Reply} (h : Reply.read body = .ok reply) :
    (∃ code text, reply = .fault code text ∧ IsFault body code text) ∨
      ∃ value, reply = .success value ∧ IsResult body value := by
  rw [Reply.read] at h
  cases hroot : Node.parse? body.toList with
  | none =>
    rw [hroot] at h
    cases h
  | some root =>
    rw [hroot] at h
    have h : Reply.ofRoot root = .ok reply := h
    cases hnamed : root.isNamed "methodResponse" with
    | false =>
      rw [Reply.ofRoot, hnamed] at h
      cases h
    | true =>
      -- a fault is looked for first, so that a result beside one is never read
      cases hfault : root.child? "fault" with
      | some fault =>
        obtain ⟨held, entries, hheld, hvalue, hread⟩ := fault_of_ofRoot hnamed hfault h
        rw [ofFault_obj] at hread
        exact .inl ⟨_, _, (Except.ok.inj hread).symm, root, fault, held, entries, hroot, hnamed,
          hfault, hheld, hvalue, rfl, rfl⟩
      | none =>
        obtain ⟨value, hreply, hvalue⟩ := result_of_ofRoot hnamed hfault h
        exact .inr ⟨value, hreply, root, hroot, hnamed, hfault, hvalue⟩

end XmlRpc

/-! ## Statuses -/

theorem HttpReply.isSuccess_iff (reply : HttpReply) :
    reply.isSuccess = true ↔ 200 ≤ reply.status ∧ reply.status ≤ 299 := by
  unfold HttpReply.isSuccess
  rw [Bool.and_eq_true, decide_eq_true_iff, decide_eq_true_iff]
  omega

theorem HttpReply.isSuccess_eq_false {reply : HttpReply}
    (h : ¬ (200 ≤ reply.status ∧ reply.status ≤ 299)) : reply.isSuccess = false := by
  rw [← reply.isSuccess_iff] at h
  exact Bool.eq_false_of_not_eq_true h

/-! ## Previews -/

/-- What is shown of a body: all of it but the blanks around it, or the first two hundred
characters of that and three dots. -/
inductive Http.PreviewOf (body : String) : String → Prop
  | whole (short : (Text.trimmed body).length ≤ 200) : PreviewOf body (Text.trimmed body)
  | cut {start rest : String} (long : Text.trimmed body = start ++ rest)
    (length : start.length = 200) (more : rest ≠ "") : PreviewOf body (start ++ "...")

theorem Http.previewOf (body : String) : PreviewOf body (preview body) := by
  have hlength : (Text.trimmed body).length = (Text.trim body.toList).length := by
    rw [Text.trimmed, String.length_ofList]
  unfold preview
  dsimp only
  split
  · rename_i hlong
    have hsplit : Text.trimmed body =
        .ofList ((Text.trim body.toList).take previewLength) ++
          .ofList ((Text.trim body.toList).drop previewLength) := by
      rw [← String.ofList_append, List.take_append_drop, Text.trimmed]
    refine .cut hsplit ?_ ?_
    · rw [String.length_ofList, List.length_take]
      exact Nat.min_eq_left hlong.le
    · intro hempty
      have hdrop := congrArg String.length hempty
      rw [String.length_ofList, List.length_drop] at hdrop
      exact absurd hdrop (Nat.sub_ne_zero_of_lt hlong)
  · rename_i hshort
    refine .whole ?_
    rw [hlength]
    exact Nat.le_of_not_lt hshort

/-! ## XML-RPC -/

namespace XmlRpc

/-- What is promised of XML-RPC: a fault is one at any status, a reply without success is a
breakdown with its status, and a success is its result or malformed. -/
structure Judges (r : Request) (reply : HttpReply) : Prop where
  fault : ∀ code text, IsFault reply.body code text →
    decode r reply = .error (.fault r.operation code text (some reply.status))
  refused : ¬ (200 ≤ reply.status ∧ reply.status ≤ 299) →
    (∀ code text, ¬ IsFault reply.body code text) →
      ∃ detail, decode r reply = .error (.transport r.operation (.status reply.status) detail)
  unreadable : 200 ≤ reply.status ∧ reply.status ≤ 299 → IsUnreadable reply.body →
    ∃ detail, decode r reply = .error (.malformed r.operation detail)
  result : 200 ≤ reply.status ∧ reply.status ≤ 299 → ∀ value, IsResult reply.body value →
    decode r reply = .ok ⟨value, reply.status, reply.total⟩

/-- The ways in which a reply is judged. -/
theorem decode_cases (r : Request) (reply : HttpReply) :
    (∃ code text, IsFault reply.body code text ∧
        decode r reply = .error (.fault r.operation code text (some reply.status))) ∨
      (reply.isSuccess = false ∧ decode r reply = .error (statusFailure r.operation reply)) ∨
      (reply.isSuccess = true ∧ ∃ value, IsResult reply.body value ∧
        decode r reply = .ok ⟨value, reply.status, reply.total⟩) ∨
      (reply.isSuccess = true ∧ IsUnreadable reply.body ∧
        ∃ detail, decode r reply = .error (.malformed r.operation detail)) := by
  unfold decode
  -- the body is read before the status is looked at, which is why a fault stands at any status
  cases hread : Reply.read reply.body with
  | error e =>
    cases hsuccess : reply.isSuccess with
    | false => exact .inr (.inl ⟨rfl, rfl⟩)
    | true => exact .inr (.inr (.inr ⟨rfl, isUnreadable_of_read hread, e.message, rfl⟩))
  | ok answer =>
    rcases isFault_or_isResult hread with ⟨code, text, rfl, hfault⟩ | ⟨value, rfl, hresult⟩
    · exact .inl ⟨code, text, hfault, rfl⟩
    · cases hsuccess : reply.isSuccess with
      | false => exact .inr (.inl ⟨rfl, rfl⟩)
      | true => exact .inr (.inr (.inl ⟨rfl, value, hresult, rfl⟩))

theorem judges (r : Request) (reply : HttpReply) : Judges r reply where
  fault code text h := by
    unfold decode
    rw [h.read]
  refused hstatus hnone := by
    have hsuccess := HttpReply.isSuccess_eq_false hstatus
    rcases decode_cases r reply with ⟨code, text, hfault, -⟩ | ⟨-, h⟩ | ⟨h, -⟩ | ⟨h, -⟩
    · exact absurd hfault (hnone code text)
    · exact ⟨_, h⟩
    · rw [hsuccess] at h
      cases h
    · rw [hsuccess] at h
      cases h
  unreadable hstatus hunreadable := by
    have hsuccess := reply.isSuccess_iff.2 hstatus
    rcases decode_cases r reply with ⟨code, text, hfault, -⟩ | ⟨h, -⟩ | ⟨-, value, h, -⟩ |
      ⟨-, -, h⟩
    · exact absurd hfault (hunreadable.1 code text)
    · rw [hsuccess] at h
      cases h
    · exact absurd h (hunreadable.2 value)
    · exact h
  result hstatus value h := by
    unfold decode
    rw [h.read, reply.isSuccess_iff.2 hstatus]
    rfl

end XmlRpc

/-! ## REST -/

namespace Rest

/-- What is promised of REST: a reply without success is a fault, whose code and text stand
in the body or are made up each on its own, the text from a preview of the body; and a success
is empty, malformed or its result. -/
structure Judges (r : Request) (reply : HttpReply) : Prop where
  refused : ¬ (200 ≤ reply.status ∧ reply.status ≤ 299) → ∃ code text,
    decode r reply = .error (.fault r.operation code text (some reply.status)) ∧
      code = (((Json.read? reply.body).bind (·.get? "code")).bind Json.word?).getD
        (Text.ofNat reply.status) ∧
      text = (((Json.read? reply.body).bind (·.get? "error")).bind Json.str?).getD
        (if Text.isBlankText reply.body then "Empty response." else Http.preview reply.body)
  preview : Http.PreviewOf reply.body (Http.preview reply.body)
  empty : 200 ≤ reply.status ∧ reply.status ≤ 299 → Text.isBlankText reply.body = true →
    decode r reply = .error (.fault r.operation (Text.ofNat reply.status) "Empty response."
      (some reply.status))
  malformed : 200 ≤ reply.status ∧ reply.status ≤ 299 → Text.isBlankText reply.body = false →
    Json.read? reply.body = none →
      ∃ detail, decode r reply = .error (.malformed r.operation detail)
  result : 200 ≤ reply.status ∧ reply.status ≤ 299 → Text.isBlankText reply.body = false →
    ∀ value, Json.read? reply.body = some value →
      decode r reply = .ok ⟨value, reply.status, reply.total⟩

theorem faultOf_eq (operation : String) (reply : HttpReply) :
    faultOf operation reply = .fault operation
      ((((Json.read? reply.body).bind (·.get? "code")).bind Json.word?).getD
        (Text.ofNat reply.status))
      ((((Json.read? reply.body).bind (·.get? "error")).bind Json.str?).getD
        (if Text.isBlankText reply.body then "Empty response." else Http.preview reply.body))
      (some reply.status) := by
  dsimp only [faultOf, emptyReply]
  -- code and text are looked for, and made up, apart from each other
  congr 1
  · rcases (Json.read? reply.body).bind (·.get? "code") with _ | code
    · rfl
    · cases code <;> rfl
  · cases ((Json.read? reply.body).bind (·.get? "error")).bind Json.str? <;> rfl

theorem judges (r : Request) (reply : HttpReply) : Judges r reply where
  refused hstatus := by
    refine ⟨_, _, ?_, rfl, rfl⟩
    rw [decode, HttpReply.isSuccess_eq_false hstatus, faultOf_eq]
    rfl
  preview := Http.previewOf reply.body
  empty hstatus hblank := by
    rw [decode, reply.isSuccess_iff.2 hstatus, hblank]
    rfl
  malformed hstatus hblank hnone := by
    rw [decode, reply.isSuccess_iff.2 hstatus, hblank]
    unfold Json.read? at hnone
    cases hread : Json.read reply.body with
    | error e => exact ⟨_, rfl⟩
    | ok value =>
      rw [hread] at hnone
      cases hnone
  result hstatus hblank value hsome := by
    rw [decode, reply.isSuccess_iff.2 hstatus, hblank]
    unfold Json.read? at hsome
    cases hread : Json.read reply.body with
    | error e =>
      rw [hread] at hsome
      cases hsome
    | ok v =>
      rw [hread] at hsome
      obtain rfl := Option.some.inj hsome
      rfl

end Rest

/-! ## Both formats -/

/-- What is promised of the reading of a reply in either format: a result is of a success
and carries its status and total, any other status comes out as a failure with it, and
failures name the method. -/
structure WireFormat.Faithful (format : WireFormat) (r : Request) (reply : HttpReply) :
    Prop where
  result : ∀ response, format.decode r reply = .ok response →
    (200 ≤ reply.status ∧ reply.status ≤ 299) ∧ response.status = reply.status ∧
      response.total = reply.total
  refused : ¬ (200 ≤ reply.status ∧ reply.status ≤ 299) →
    ∃ e, format.decode r reply = .error e ∧ e.status? = some reply.status
  operation : ∀ e, format.decode r reply = .error e →
    e.operation? = some (r.service ++ "." ++ r.method)

/-- A reply is read as a result with its status and total, or as a failure of the method. -/
theorem WireFormat.decode_cases (format : WireFormat) (r : Request) (reply : HttpReply) :
    (reply.isSuccess = true ∧
        ∃ value, format.decode r reply = .ok ⟨value, reply.status, reply.total⟩) ∨
      ∃ e, format.decode r reply = .error e ∧ e.operation? = some r.operation ∧
        (reply.isSuccess = false → e.status? = some reply.status) := by
  cases format with
  | xmlRpc =>
    rcases XmlRpc.decode_cases r reply with ⟨code, text, -, h⟩ | ⟨-, h⟩ | ⟨hsuccess, value, -, h⟩ |
      ⟨hsuccess, -, detail, h⟩
    · exact .inr ⟨_, h, rfl, fun _ => rfl⟩
    · exact .inr ⟨_, h, rfl, fun _ => rfl⟩
    · exact .inl ⟨hsuccess, value, h⟩
    · refine .inr ⟨_, h, rfl, fun hfailed => ?_⟩
      rw [hsuccess] at hfailed
      cases hfailed
  | rest =>
    show (_ ∧ ∃ value, Rest.decode r reply = _) ∨ ∃ e, Rest.decode r reply = _ ∧ _
    unfold Rest.decode
    cases hsuccess : reply.isSuccess with
    | false => exact .inr ⟨_, rfl, rfl, fun _ => rfl⟩
    | true =>
      cases Text.isBlankText reply.body with
      | true => exact .inr ⟨_, rfl, rfl, nofun⟩
      | false =>
        cases Json.read reply.body with
        | error e => exact .inr ⟨_, rfl, rfl, nofun⟩
        | ok value => exact .inl ⟨rfl, value, rfl⟩

theorem WireFormat.faithful (format : WireFormat) (r : Request) (reply : HttpReply) :
    format.Faithful r reply := by
  rcases format.decode_cases r reply with ⟨hsuccess, value, h⟩ | ⟨e, h, hoperation, hstatus⟩
  · refine ⟨fun response hresponse => ?_, fun hrefused => ?_, fun e he => ?_⟩
    · rw [h] at hresponse
      obtain rfl := Except.ok.inj hresponse
      exact ⟨reply.isSuccess_iff.1 hsuccess, rfl, rfl⟩
    · exact absurd (reply.isSuccess_iff.1 hsuccess) hrefused
    · rw [h] at he
      cases he
  · refine ⟨fun response hresponse => ?_, fun hrefused => ?_, fun e' he => ?_⟩
    · rw [h] at hresponse
      cases hresponse
    · exact ⟨e, h, hstatus (HttpReply.isSuccess_eq_false hrefused)⟩
    · rw [h] at he
      obtain rfl := Except.error.inj he
      exact hoperation

/-! ## Exchanges -/

theorem Network.send_cases (network : Network Id) (operation : String) (w : WireRequest) :
    (∃ e, Http.send network operation w = .error e) ∨
      ∃ reply, network w = .ok reply ∧ Http.send network operation w = .ok reply := by
  unfold Http.send
  cases Http.checked operation w with
  | error e => exact .inl ⟨e, rfl⟩
  | ok url =>
    simp only [bind]
    cases network w with
    | error fault => exact .inl ⟨_, rfl⟩
    | ok reply => exact .inr ⟨reply, rfl, rfl⟩

/-- A transport reads the reply that its network gives, or it has none. -/
theorem Network.transport_cases (network : Network Id) (format : WireFormat) (r : Request) :
    (∃ e, network.transport format r = .error e) ∨
      ∃ w reply, format.prepare r = .ok w.request ∧ network w = .ok reply ∧
        network.transport format r = format.decode r reply := by
  unfold Network.transport
  cases format.prepare r with
  | error e => exact .inl ⟨e, rfl⟩
  | ok prepared =>
    let w : WireRequest := ⟨prepared, r.timeoutMs, r.proxy, r.verify⟩
    simp only [bind]
    rcases network.send_cases r.operation w with ⟨e, hsend⟩ | ⟨reply, hreply, hsend⟩
    · rw [hsend]
      exact .inl ⟨e, rfl⟩
    · rw [hsend]
      exact .inr ⟨w, reply, rfl, hreply, rfl⟩

/-- Replies are never misread: in either format a result comes from a success with its
status and total and every other status is a failure that shows it, faults are kept apart
from results as each format tells them apart, and a transport returns nothing but what its
network's replies are read as. -/
theorem Network.read_faithfully (r : Request) :
    (∀ (format : WireFormat) (reply : HttpReply), format.Faithful r reply) ∧
      (∀ reply, XmlRpc.Judges r reply) ∧
      (∀ reply, Rest.Judges r reply) ∧
      ∀ (network : Network Id) (format : WireFormat) (response : Response),
        network.transport format r = .ok response →
          ∃ w reply, format.prepare r = .ok w.request ∧ network w = .ok reply ∧
            format.decode r reply = .ok response := by
  refine ⟨fun format reply => format.faithful r reply, fun reply => XmlRpc.judges r reply,
    fun reply => Rest.judges r reply, fun network format response h => ?_⟩
  rcases network.transport_cases format r with ⟨e, he⟩ | ⟨w, reply, hw, hreply, hread⟩
  · rw [he] at h
    cases h
  · rw [hread] at h
    exact ⟨w, reply, hw, hreply, h⟩

end CloudClient
