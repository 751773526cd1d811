import CloudClient.Call.Transport
import CloudClient.Client.Pager
import CloudClient.Client.Setup

/-!
# Client — calls with a credential

A client authorizes calls, sends them again where its policy says so, and keeps a
journal of every attempt.  An IAM token that is about to end is replaced before a
call is authorized.

* `Client.current` gives the credential for the next call.
* `Client.exchange` makes one call.
* `Client.carryOut` carries a procedure of calls out.
* `Client.reproduce` shows what a call would send.
-/

namespace CloudClient

/-- What a client needs from outside, in some monad. -/
structure Surroundings (m : Type → Type) where
  transport : Transport m
  network : Network m
  clock : m Moment

abbrev ClientM (m : Type → Type) := ExceptT Failure (StateT ClientState m)

namespace Client

variable {m : Type → Type} [Monad m]

/-! ## State -/

def state : ClientM m ClientState := ExceptT.lift get

def change (f : ClientState → ClientState) : ClientM m Unit := ExceptT.lift (modify f)

def outside {α : Type} (act : m α) : ClientM m α := ExceptT.lift (StateT.lift act)

def attemptOutside {α : Type} (act : m (Except Failure α)) : ClientM m α :=
  ExceptT.mk (StateT.lift act)

def credential : ClientM m (Option Credential) := ClientState.credential <$> state

def setCredential (c : Option Credential) : ClientM m Unit :=
  change fun s => { s with credential := c }

/-- Hands an IAM token to the owner of the client, then installs it. -/
def install (t : IamToken) : ClientM m Unit := do
  change fun s => { s with handed := t :: s.handed }
  setCredential (some (.iam t))

/-! ## Credentials that end -/

def isExpiring (c : Client) (now : Moment) : Option Credential → Bool
  | some (.iam t) => t.needsRefresh now c.skew
  | _ => false

/-- The IAM token to trade in for a new one, and its refresh token: a credential that
ends and can be replaced. -/
def renewable? (c : Client) (now : Moment) (held : Option Credential) :
    Option (IamToken × Secret) :=
  match held with
  | some (.iam t) => if t.needsRefresh now c.skew then t.refresh.map (t, ·) else none
  | _ => none

/-- The credential for the next call.  One that is about to end is looked at again,
and replaced if that is possible. -/
def current (c : Client) (world : Surroundings m) : ClientM m (Option Credential) := do
  let held ← credential
  if !c.isExpiring (← outside world.clock) held then return held
  let held ← credential
  match c.renewable? (← outside world.clock) held with
  | none => return held
  | some (t, refresh) =>
    let fresh ← attemptOutside
      (Iam.refreshToken world.network world.clock c.iam refresh t.account t.imsAccount)
    install fresh
    credential

/-! ## Calls -/

def request (c : Client) (call : Call) : Request :=
  { Request.plain c.endpoint (Naming.fullService call.service) call.method c.userAgent with
    args := call.args
    timeoutMs := c.timeoutMs
    proxy := c.proxy
    verify := c.verify }.apply call.options

def authorized (c : Client) (r : Request) : Option Credential → Request
  | some credential => credential.attach c.format r
  | none => r

def attempt (c : Client) (world : Surroundings m) (r : Request) :
    StateT ClientState m CallResult := do
  let outcome ← StateT.lift (world.transport r)
  modify fun s => { s with journal := s.journal.push (.ofAttempt c.format r outcome) }
  return outcome

def send (c : Client) (world : Surroundings m) (r : Request) : ClientM m Response :=
  ExceptT.mk (c.retry.run (r.idempotent || Naming.isReadShaped r.method) (c.attempt world r)
    (r.retries.getD c.retry.maxRetries))

def exchange (c : Client) (world : Surroundings m) (call : Call) : ClientM m Response := do
  let held ← c.current world
  c.send world (c.authorized (c.request call) held)

/-- Makes a call and looks at its result, failure or not. -/
def exchangeResult (c : Client) (world : Surroundings m) (call : Call) :
    StateT ClientState m CallResult :=
  ExceptT.run (c.exchange world call)

/-- Up to a number of items of the listing that a call asks for, failures among them. -/
def items (c : Client) (world : Surroundings m) (call : Call) (count : Nat) :
    ClientM m (List (Except Failure Json)) := do
  let p ← liftExcept call.pager
  ExceptT.lift (p.items (fun offset limit => c.exchangeResult world (call.page offset limit)) count)
where
  liftExcept {α : Type} (r : Except Failure α) : ClientM m α := ExceptT.mk (pure r)

def carryOut {α : Type} (c : Client) (world : Surroundings m) (p : Procedure α) :
    ClientM m α :=
  ExceptT.mk (p.run (c.exchangeResult world))

/-- What a call would send, with placeholders for everything secret: a `curl` command
for REST, the HTTP text for XML-RPC. -/
def shown (c : Client) (held : Option Credential) (call : Call) : Except Failure String :=
  (c.format.prepare (c.authorized (c.request call) (held.map Credential.placeholder))).map fun p =>
    match c.format with
    | .rest => p.curl
    | .xmlRpc => p.raw

def reproduce (c : Client) (call : Call) : ClientM m String := do
  let held ← credential
  ExceptT.mk (pure (c.shown held call))

/-! ## Portal sessions -/

def callValue (c : Client) (world : Surroundings m) (service method : String)
    (args : List Json) (id : Option Int) : ClientM m Json :=
  Response.value <$> c.exchange world ⟨service, method, args, { CallOptions.none with id := id }⟩

def sessionOfReply (operation : String) (reply : Json) : Except Failure (Int × Secret) :=
  match (reply.get? "userId").bind Json.i64? with
  | none => .error (.malformed operation "reply has no 'userId'")
  | some userId =>
    match (reply.get? "hash").bind Json.str? with
    | none => .error (.malformed operation "reply has no 'hash'")
    | some hash => .ok (userId, ⟨hash⟩)

def loginToPortal (c : Client) (world : Surroundings m) (username : String) (password : Secret)
    (question : Option Int) (answer : Option String) : ClientM m (Int × Secret) := do
  let reply ← c.callValue world "User_Customer" "getPortalLoginToken"
    [.str username, .str password.exposed, .opt .int question, .opt .str answer] none
  let (userId, token) ← ExceptT.mk (pure
    (sessionOfReply "SoftLayer_User_Customer.getPortalLoginToken" reply))
  setCredential (some (.session userId token))
  return (userId, token)

/-- The longer of two texts in bytes; of two of one length the second. -/
def longer (a b : String) : String := if b.utf8ByteSize < a.utf8ByteSize then a else b

/-- The token of a renewal reply: the text, or the longest text of a list. -/
def longestText? : Json → Option String
  | .str s => some s
  | .arr items =>
    match items.filterMap Json.str? with
    | [] => none
    | s :: rest => some (rest.foldl longer s)
  | _ => none

/-- Trades a session token in for a new one and installs the session. -/
def renewSession (c : Client) (world : Surroundings m) (userId : Int) (token : Secret) :
    ClientM m Secret := do
  let reply ← c.callValue world "User_Employee" "refreshEncryptedToken" [.str token.exposed]
    (some userId)
  match longestText? reply with
  | none =>
    throw (.malformed "SoftLayer_User_Employee.refreshEncryptedToken" "reply holds no token")
  | some fresh =>
    setCredential (some (.session userId ⟨fresh⟩))
    return ⟨fresh⟩

/-! ## IAM -/

def loginToIam (c : Client) (world : Surroundings m) (form : List (String × String)) :
    ClientM m IamToken := do
  let t ← attemptOutside (Iam.requestToken world.network world.clock c.iam form)
  install t
  return t

def iamToken : ClientM m IamToken := do
  match ← credential with
  | some (.iam t) => return t
  | _ => throw (.argument "an IAM token is required; log in with IAM first")

def iamAccounts (c : Client) (world : Surroundings m) : ClientM m (List IamAccount) := do
  let t ← iamToken
  attemptOutside (Iam.requestAccounts world.network c.iam t.access)

/-- Trades the installed IAM token in for one of another account. -/
def selectAccount (c : Client) (world : Surroundings m) (account : String)
    (imsAccount : Option String) : ClientM m IamToken := do
  let t ← iamToken
  match t.refresh with
  | none => throw (.argument "the IAM token has no refresh token")
  | some refresh =>
    let fresh ← attemptOutside
      (Iam.refreshToken world.network world.clock c.iam refresh (some account) imsAccount)
    install fresh
    return fresh

end Client

end CloudClient
