import CloudClient.Call.Prepared
import CloudClient.Call.Request
import CloudClient.Failure
import CloudClient.Url

/-!
# HTTP exchanges

What both wire formats have in common: how an address is put together, the
headers of every request, the parts of a reply, and which prepared requests can
be sent at all.

* `Network` is what carries requests: a function from a request to a reply or to
  the way the exchange broke down.
* `Http.send` checks a request before it is carried.
-/

namespace CloudClient

/-- A reply before its body is read. -/
structure HttpReply where
  status : Nat
  /-- The size of the whole list, if the reply names it. -/
  total : Option Nat
  body : String
deriving DecidableEq, Repr

def HttpReply.isSuccess (r : HttpReply) : Bool := 200 ≤ r.status && r.status < 300

/-- A request as it is handed to the network. -/
structure WireRequest where
  request : PreparedRequest
  timeoutMs : Nat
  proxy : Option String
  verify : Bool

/-- What carries a request, in some monad: it gives a reply, or tells how the
exchange broke down and why. -/
abbrev Network (m : Type → Type) := WireRequest → m (Except (Breakdown × String) HttpReply)

namespace Http

/-! ## Putting requests together -/

/-- An address and a path with exactly one slash between them. -/
def joinUrl (endpoint path : String) : String :=
  Text.trimEndChar '/' endpoint ++ "/" ++ Text.trimStartChar '/' path

/-- The headers of every request: content type, user agent, then those of the call. -/
def baseHeaders (r : Request) (contentType : String) : List (String × String) :=
  [("Content-Type", contentType), ("User-Agent", r.userAgent)] ++ r.httpHeaders

/-! ## Reading replies -/

def previewLength : Nat := 200

def preview (body : String) : String :=
  let cs := Text.trim body.toList
  if previewLength < cs.length then .ofList (cs.take previewLength) ++ "..." else .ofList cs

/-! ## What can be sent -/

def isHeaderNameChar (c : Char) : Bool :=
  c.isAlphanum || "!#$%&'*+-.^_\x60|~".toList.contains c

def isHeaderName (name : String) : Bool :=
  !name.isEmpty && name.toList.all isHeaderNameChar

/-- Whether a header value can be sent: it holds no control character but the tab. -/
def isHeaderValue (value : String) : Bool :=
  value.toList.all fun c => c == '\t' || !Url.controlSet c

/-- Characters that a host may have in an address but not in a request. -/
def isUnsendable (c : Char) : Bool :=
  ['"', '\x60', '\x7b', '\x7d'].contains c

/-- The address that a request goes to, in its normal form and without user; the
error tells why there is none. -/
def target (url : String) : Except String Url :=
  match Url.parse url with
  | .error _ => .error "builder error"
  | .ok u =>
    let bare :=
      { u with authority := u.authority.map fun a => { a with user := "", password := "" } }
    match u.authority with
    | some a =>
      if (u.scheme == "http" || u.scheme == "https") && !a.host.toList.any isUnsendable then
        .ok bare
      else .error ("builder error for url (" ++ bare.text ++ ")")
    | none => .error ("builder error for url (" ++ u.text ++ ")")

/-- The address of a proxy, or why a text is none; a text without scheme is taken as an
HTTP address. -/
def proxyUrl (proxy : String) : Except String Url :=
  let judge (u : Url) : Except String Url :=
    if u.scheme == "http" || u.scheme == "https" then .ok u
    else .error "builder error: unknown proxy scheme"
  match Url.parse proxy with
  | .ok u => if u.authority.isSome then judge u else .error "builder error"
  | .error .relative =>
    match Url.parse ("http://" ++ proxy) with
    | .ok u => judge u
    | .error _ => .error "builder error"
  | .error _ => .error "builder error"

/-- Why a text is no proxy. -/
def proxyFault? (proxy : String) : Option String :=
  match proxyUrl proxy with
  | .ok _ => none
  | .error reason => some reason

/-- The target of a request that can be sent as it is. -/
def checked (operation : String) (w : WireRequest) : Except Failure Url :=
  let fault :=
    match w.proxy with
    | some proxy => (proxyFault? proxy).map fun reason =>
        Failure.settings ("invalid proxy '" ++ proxy ++ "': " ++ reason)
    | none => none
  match fault with
  | some e => .error e
  | none =>
    match target w.request.url with
    | .error reason => .error (.argument (operation ++ ": " ++ reason))
    | .ok url =>
      if w.request.headers.all fun (n, v) => isHeaderName n && isHeaderValue v then .ok url
      else .error (.argument (operation ++ ": builder error"))

def send {m : Type → Type} [Monad m] (network : Network m) (operation : String)
    (w : WireRequest) : m (Except Failure HttpReply) :=
  match checked operation w with
  | .error e => return .error e
  | .ok url => do
    match ← network w with
    | .ok reply => return .ok reply
    | .error (breakdown, reason) =>
      let detail := "error sending request for url (" ++ url.text ++ "): " ++ reason
      return .error (.transport operation breakdown detail)

end Http

end CloudClient
