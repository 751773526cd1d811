import CloudClient.Call.Http
import CloudClient.Failure
import CloudClient.Query.Mask
import CloudClient.XmlRpc.Reader
import CloudClient.XmlRpc.Writer

/-!
# XML-RPC encoding of calls

Every call is a POST to the address of its service.  Object, mask, filter and
window are entries of a header container, which is the first parameter; the
arguments follow it.

* `XmlRpc.prepare` encodes a call.
* `XmlRpc.decode` reads its reply: a fault is reported at any status, a result comes
  only from a success status.
-/

namespace CloudClient.XmlRpc

/-! ## Requests -/

/-- Puts an entry into a container, if there is a value for it. -/
def addEntry (name : String) (value : Option Json) (container : Fields Json) : Fields Json :=
  match value with
  | some v => Fields.insert name v container
  | none => container

/-- The window of a listing as an entry; none without a limit. -/
def window? (r : Request) : Option Json :=
  r.limit.map fun limit => .obj [("limit", .nat limit), ("offset", .nat r.offset)]

/-- The header container of a call: the caller's entries, then those of its options. -/
def container (r : Request) : Fields Json :=
  let id := r.id.map fun id => Json.obj [("id", .int id)]
  let mask := r.mask?.map fun m => Json.obj [("mask", .str (Mask.wireText m))]
  let filter := r.filter?.map Filter.toJson
  addEntry "resultLimit" (window? r)
    (addEntry (r.service ++ "ObjectFilter") filter
      (addEntry (r.service ++ "ObjectMask") mask
        (addEntry (r.service ++ "InitParameters") id r.headers)))

def parameters (r : Request) : List Json :=
  .obj [("headers", .obj (container r))] :: r.args

def prepare (r : Request) : Except Failure PreparedRequest :=
  .ok
    { verb := .post
      url := Http.joinUrl r.endpoint r.service
      headers := Http.baseHeaders r "application/xml"
      body := some (Writer.call r.method (parameters r)) }

/-! ## Replies -/

def statusFailure (operation : String) (reply : HttpReply) : Failure :=
  .transport operation (.status reply.status)
    ("HTTP " ++ Text.ofNat reply.status ++ ": " ++ Http.preview reply.body)

def decode (r : Request) (reply : HttpReply) : Except Failure Response :=
  match Reply.read reply.body with
  | .ok (.fault code text) => .error (.fault r.operation code text (some reply.status))
  | .ok (.success value) =>
    if reply.isSuccess then .ok ⟨value, reply.status, reply.total⟩
    else .error (statusFailure r.operation reply)
  | .error e =>
    if reply.isSuccess then .error (.malformed r.operation e.message)
    else .error (statusFailure r.operation reply)

end CloudClient.XmlRpc
