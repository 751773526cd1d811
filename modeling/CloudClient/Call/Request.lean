import CloudClient.Query.Filter

/-!
# Requests

A call is a method of a service with arguments; it travels as an XML-RPC document or as a REST
request with JSON.  Options of the single call take precedence over what the client sets for all
of them.  No message and no log shows a secret: only the code that writes a header, a body or a
credential looks inside.
-/

namespace CloudClient

/-- An API key, a password or a token. -/
structure Secret where
  exposed : String
deriving DecidableEq

namespace Secret

/-- What stands for a secret wherever it would be shown. -/
def shown (_ : Secret) : String := "[REDACTED]"

def isEmpty (s : Secret) : Bool := s.exposed.isEmpty

end Secret

inductive WireFormat where
  | xmlRpc
  | rest
deriving DecidableEq, Repr

namespace WireFormat

def text : WireFormat → String
  | .xmlRpc => "xmlrpc"
  | .rest => "rest"

def ofText? : String → Option WireFormat
  | "xmlrpc" | "xml-rpc" | "xml_rpc" => some .xmlRpc
  | "rest" | "json" => some .rest
  | _ => none

/-- Reads a format from JSON: its word, or an object whose one member has that word
as its name and null as its value. -/
def ofJson? : Json → Option WireFormat
  | .str s => ofText? s
  | .obj [(k, .null)] => ofText? k
  | _ => none

def endpoint : WireFormat → String
  | .xmlRpc => "https://api.softlayer.com/xmlrpc/v3.1/"
  | .rest => "https://api.softlayer.com/rest/v3.1/"

end WireFormat

structure CallOptions where
  id : Option Int
  mask : Option String
  filter : Option Filter
  /-- Further entries of the header container. -/
  headers : List (String × Json)
  rawHeaders : List (String × String)
  limit : Option Nat
  offset : Nat
  /-- Retries after the first attempt, in place of the client's policy. -/
  retries : Option Nat
  /-- Whether repeating the call does no harm, whatever its name. -/
  idempotent : Bool
  timeoutMs : Option Nat
  proxy : Option String
  verify : Option Bool

def CallOptions.none : CallOptions where
  id := .none
  mask := .none
  filter := .none
  headers := []
  rawHeaders := []
  limit := .none
  offset := 0
  retries := .none
  idempotent := false
  timeoutMs := .none
  proxy := .none
  verify := .none

/-- A call with everything that its encoding needs. -/
structure Request where
  endpoint : String
  service : String
  method : String
  args : List Json
  id : Option Int
  mask : Option String
  filter : Option Filter
  /-- Entries of the header container, in key order. -/
  headers : Fields Json
  limit : Option Nat
  offset : Nat
  /-- The user of HTTP basic authentication. -/
  user : Option String
  password : Option Secret
  httpHeaders : List (String × String)
  timeoutMs : Nat
  proxy : Option String
  verify : Bool
  userAgent : String
  /-- Whether repeating the call does no harm, whatever its name. -/
  idempotent : Bool
  /-- Retries after the first attempt, in place of the client's policy. -/
  retries : Option Nat

namespace Request

def standardTimeoutMs : Nat := 120000

/-- How the library names itself: its name and version, then the system and the processor
that it is built for. -/
def libraryAgent (system processor : String) : String :=
  "softlayer-rs/0.1.0 (" ++ system ++ "; " ++ processor ++ ")"

/-- How the library names itself on the platform of this build. -/
def standardAgent : String := libraryAgent "linux" "x86_64"

def plain (endpoint service method userAgent : String) : Request where
  endpoint := endpoint
  service := service
  method := method
  args := []
  id := none
  mask := none
  filter := none
  headers := []
  limit := none
  offset := 0
  user := none
  password := none
  httpHeaders := []
  timeoutMs := standardTimeoutMs
  proxy := none
  verify := true
  userAgent := userAgent
  idempotent := false
  retries := none

/-- The request under the options of its call.  Time limit, proxy and certificate
check keep the client's values where the options say nothing. -/
def apply (r : Request) (o : CallOptions) : Request :=
  { r with
    id := o.id
    mask := o.mask
    filter := o.filter
    headers := r.headers.union o.headers
    httpHeaders := r.httpHeaders ++ o.rawHeaders
    limit := o.limit
    offset := o.offset
    retries := o.retries
    idempotent := o.idempotent
    timeoutMs := o.timeoutMs.getD r.timeoutMs
    proxy := o.proxy.orElse fun _ => r.proxy
    verify := o.verify.getD r.verify }

def operation (r : Request) : String := r.service ++ "." ++ r.method

/-- The mask, unless it is blank. -/
def mask? (r : Request) : Option String :=
  r.mask.filter fun m => !Text.isBlankText m

/-- The filter, unless it lets every object pass. -/
def filter? (r : Request) : Option Filter :=
  r.filter.filter fun f => !f.isEmpty

/-- What a request says beyond another one, as a record for people to read. -/
def differences (base r : Request) : Json :=
  let entry (name : String) (differs : Bool) (v : Json) : List (String × Json) :=
    if differs then [(name, v)] else []
  .object ([("operation", .str r.operation)] ++
    entry "args" (!r.args.isEmpty) (.arr r.args) ++
    entry "id" (r.id != base.id) (.opt .int r.id) ++
    entry "mask" (r.mask != base.mask) (.opt .str r.mask) ++
    entry "filter" r.filter.isSome (.opt Filter.toJson r.filter) ++
    entry "headers" (!r.headers.isEmpty) (.obj r.headers) ++
    entry "limit" (r.limit != base.limit) (.opt .nat r.limit) ++
    entry "offset" (r.offset != base.offset) (.nat r.offset) ++
    entry "user" (r.user != base.user) (.opt .str r.user) ++
    entry "password" (r.password != base.password)
      (.opt (fun p => .str (Secret.exposed p)) r.password) ++
    entry "transport_headers" (r.httpHeaders != base.httpHeaders)
      (.arr (r.httpHeaders.map fun (name, value) => .arr [.str name, .str value])) ++
    entry "timeout_ms" (r.timeoutMs != base.timeoutMs) (.nat r.timeoutMs) ++
    entry "proxy" (r.proxy != base.proxy) (.opt .str r.proxy) ++
    entry "verify" (r.verify != base.verify) (.bool r.verify) ++
    entry "idempotent" (r.idempotent != base.idempotent) (.bool r.idempotent) ++
    entry "retries" (r.retries != base.retries) (.opt .nat r.retries) ++
    entry "user_agent" (r.userAgent != base.userAgent) (.str r.userAgent))

end Request

/-- The decoded reply to a call. -/
structure Response where
  value : Json
  status : Nat
  /-- The size of the whole list, if the reply names it. -/
  total : Option Nat

end CloudClient
