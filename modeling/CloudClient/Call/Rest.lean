import CloudClient.Call.Http
import CloudClient.Failure
import CloudClient.Json.Printer
import CloudClient.Query.Mask
import CloudClient.Text.Base64

/-!
# REST encoding of calls

The path names service, object and method; mask, filter and window are query
parameters; arguments are a JSON list in the body, and a request that carries any
is never a GET.

* `Rest.prepare` encodes a call.
* `Rest.decode` reads its reply: a result comes only from a success status.
-/

namespace CloudClient.Rest

/-! ## Requests -/

def path (r : Request) : String :=
  let object :=
    match r.id with
    | some id => "/" ++ Text.ofInt id
    | none => ""
  r.service ++ object ++ "/" ++ r.method ++ ".json"

/-- The window of a listing as a parameter: offset and limit, where a limit that is
not set counts as zero; none if neither is set. -/
def window? (r : Request) : Option String :=
  if r.limit.isSome || 0 < r.offset then
    some (Text.ofNat r.offset ++ "," ++ Text.ofNat (r.limit.getD 0))
  else none

def parameters (r : Request) : List (String × String) :=
  let named (name : String) (value : Option String) : List (String × String) :=
    (value.map fun v => (name, v)).toList
  named "objectMask" (r.mask?.map Mask.wireText) ++
    named "objectFilter" (r.filter?.map fun f => f.toJson.compact) ++
    named "resultLimit" (window? r)

def url (r : Request) : Except Failure Url :=
  let raw := Http.joinUrl r.endpoint (path r)
  match Url.parse raw with
  | .error fault => .error (.argument ("invalid endpoint URL '" ++ raw ++ "': " ++ fault.message))
  | .ok u => .ok (u.append (parameters r))

def verb (r : Request) : Verb :=
  match Naming.verb r.method with
  | .get => if r.args.isEmpty then .get else .post
  | v => v

def body? (r : Request) : Option String :=
  if r.args.isEmpty then none else some (Json.obj [("parameters", .arr r.args)]).compact

def basic (user password : String) : String :=
  "Basic " ++ .ofList (Base64.encode (Utf8.encode (user ++ ":" ++ password).toList))

def authorization (r : Request) : List (String × String) :=
  match r.user with
  | some user => [("Authorization", basic user ((r.password.map Secret.exposed).getD ""))]
  | none => []

def prepare (r : Request) : Except Failure PreparedRequest :=
  (url r).map fun u =>
    { verb := verb r
      url := u.text
      headers := Http.baseHeaders r "application/json" ++ authorization r
      body := body? r }

/-! ## Replies -/

/-- What stands for the text of an empty reply. -/
def emptyReply : String := "Empty response."

/-- The fault of a reply with an error status: text and code are members of the body;
the start of the body stands for a missing text, the status for a missing code. -/
def faultOf (operation : String) (reply : HttpReply) : Failure :=
  let parsed := Json.read? reply.body
  let text :=
    match (parsed.bind (·.get? "error")).bind Json.str? with
    | some s => s
    | none => if Text.isBlankText reply.body then emptyReply else Http.preview reply.body
  let code :=
    match parsed.bind (·.get? "code") with
    | some (.str s) => s
    | some (.num n) => (Json.num n).compact
    | _ => Text.ofNat reply.status
  .fault operation code text (some reply.status)

def decode (r : Request) (reply : HttpReply) : Except Failure Response :=
  if !reply.isSuccess then .error (faultOf r.operation reply)
  else if Text.isBlankText reply.body then
    .error (.fault r.operation (Text.ofNat reply.status) emptyReply (some reply.status))
  else
    match Json.read reply.body with
    | .error e => .error (.malformed r.operation (e.message ++ ": " ++ Http.preview reply.body))
    | .ok value => .ok ⟨value, reply.status, reply.total⟩

end CloudClient.Rest
