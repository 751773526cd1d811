import CloudClient.Auth.Credential
import CloudClient.Call.Http
import CloudClient.Call.Rest
import CloudClient.Json.Record

/-!
# IAM — tokens and accounts

The token endpoint gives a pair of tokens for a password, a passcode or a refresh
token; the accounts endpoint lists what a token may act on.

* `Iam.tokenOfReply` reads a reply of the token endpoint.
* `Iam.expiry` is the end of a token: the moment that the reply names, else the time
  to live counted from now.
-/

namespace CloudClient

structure IamEndpoints where
  token : String
  accounts : String

def IamEndpoints.standard : IamEndpoints :=
  ⟨"https://iam.cloud.ibm.com/identity/token", "https://accounts.cloud.ibm.com/v1/accounts"⟩

/-- An account and the infrastructure account linked to it. -/
structure IamAccount where
  account : String
  name : String
  imsAccount : Option String
deriving DecidableEq, Repr

def IamAccount.toJson (a : IamAccount) : Json :=
  .object [("account_id", .str a.account), ("name", .str a.name),
    ("ims_account", .opt .str a.imsAccount)]

namespace Iam

def tokenOperation : String := "IAM.token"

def accountsOperation : String := "IAM.accounts"

def timeoutMs : Nat := 60000

/-! ## Forms -/

def passwordForm (username : String) (password : Secret) : List (String × String) :=
  [("grant_type", "password"), ("username", username), ("password", password.exposed),
    ("response_type", "cloud_iam")]

def passcodeForm (passcode : Secret) : List (String × String) :=
  [("grant_type", "urn:ibm:params:oauth:grant-type:passcode"), ("passcode", passcode.exposed),
    ("response_type", "cloud_iam")]

/-- The form that trades a refresh token in, for an account if one is named. -/
def refreshForm (refresh : Secret) (account imsAccount : Option String) :
    List (String × String) :=
  [("grant_type", "refresh_token"), ("refresh_token", refresh.exposed),
    ("response_type", "cloud_iam")] ++
    (account.map fun a => ("bss_account", a)).toList ++
    (imsAccount.map fun a => ("ims_account", a)).toList

def tokenRequest (endpoints : IamEndpoints) (form : List (String × String)) : WireRequest where
  request :=
    { verb := .post
      url := endpoints.token
      headers := [("authorization", Rest.basic "bx" "bx"), ("user-agent", Request.standardAgent),
        ("accept", "application/json"), ("content-type", "application/x-www-form-urlencoded")]
      body := some (Url.Form.encode form) }
  timeoutMs := timeoutMs
  proxy := none
  verify := true

def accountsRequest (endpoints : IamEndpoints) (access : Secret) : WireRequest where
  request :=
    { verb := .get
      url := endpoints.accounts
      headers := [("authorization", "Bearer " ++ access.exposed),
        ("user-agent", Request.standardAgent), ("accept", "application/json")]
      body := none }
  timeoutMs := timeoutMs
  proxy := none
  verify := true

/-! ## Replies -/

def faultOf (operation : String) (reply : HttpReply) : Failure :=
  let parsed := Json.read? reply.body
  let member (name : String) : Option String := (parsed.bind (·.get? name)).bind Json.str?
  .fault operation ((member "errorCode").getD (Text.ofNat reply.status))
    ((member "errorMessage").getD (Http.preview reply.body)) (some reply.status)

/-- What a reply of the token endpoint holds. -/
structure TokenReply where
  access : String
  refresh : Option String
  /-- Seconds that the token lives. -/
  expiresIn : Option Int
  /-- The second, since the start of 1970, in which the token ends. -/
  expiration : Option Int
  /-- How the token is presented. -/
  type : Option String

def TokenReply.ofJson (v : Json) : Record.Reading TokenReply := do
  let ms ← Record.fields
    ["access_token", "refresh_token", "expires_in", "expiration", "token_type"] v
  let access ← Record.field? ms "access_token" Record.string
  let expiration ← Record.fieldOr none ms "expiration" (Record.nullable Record.integer)
  let expiresIn ← Record.fieldOr none ms "expires_in" (Record.nullable Record.integer)
  let refresh ← Record.fieldOr none ms "refresh_token" (Record.nullable Record.string)
  let type ← Record.fieldOr none ms "token_type" (Record.nullable Record.string)
  let access ← Record.required "access_token" access
  return ⟨access, refresh, expiresIn, expiration, type⟩

/-- The end of a token.  A moment outside the calendar is as good as none; a time to
live that leads out of the calendar makes the client give up. -/
def expiry (r : TokenReply) (now : Moment) : Except Failure (Option Moment) :=
  match r.expiration.bind Moment.ofSeconds? with
  | some e => .ok (some e)
  | none =>
    match r.expiresIn.bind Moment.span? with
    | none => .ok none
    | some span =>
      let e := now.after span
      if e.isRepresentable then .ok (some e)
      else .error (.crash "a token ends outside the calendar")

def tokenOfReply (now : Moment) (reply : HttpReply) : Except Failure IamToken :=
  if !reply.isSuccess then .error (faultOf tokenOperation reply)
  else
    match Json.read reply.body with
    | .error e => .error (.malformed tokenOperation e.message)
    | .ok v =>
      match TokenReply.ofJson v with
      | .error complaint => .error (.malformed tokenOperation complaint)
      | .ok r =>
        let type := r.type.getD "bearer"
        if !Text.equalIgnoringCase type "bearer" then
          .error (.malformed tokenOperation ("unsupported token type '" ++ type ++ "'"))
        else
          (expiry r now).map fun e => ⟨⟨r.access⟩, r.refresh.map Secret.mk, e, none, none⟩

/-- Reads one account; none if it has no id. -/
def accountOfJson? (resource : Json) : Option IamAccount := do
  let metadata ← resource.get? "metadata"
  let account ← (metadata.get? "guid").bind Json.str?
  let name := ((resource.pointer? ["entity", "name"]).bind Json.str?).getD ""
  let linked := ((metadata.get? "linked_accounts").bind Json.arr?).getD []
  let ims := linked.find? fun l => (l.get? "origin").bind Json.str? == some "IMS"
  let imsAccount :=
    match ims.bind (·.get? "id") with
    | some (.str s) => some s
    | some (.num n) => some (Json.num n).compact
    | _ => none
  return ⟨account, name, imsAccount⟩

def accountsOfReply (reply : HttpReply) : Except Failure (List IamAccount) :=
  if !reply.isSuccess then .error (faultOf accountsOperation reply)
  else
    match Json.read reply.body with
    | .error e => .error (.malformed accountsOperation e.message)
    | .ok v =>
      match (v.get? "resources").bind Json.arr? with
      | none => .error (.malformed accountsOperation "missing 'resources' list")
      | some resources => .ok (resources.filterMap accountOfJson?)

/-! ## Exchanges -/

def requestToken {m : Type → Type} [Monad m] (network : Network m) (clock : m Moment)
    (endpoints : IamEndpoints) (form : List (String × String)) : m (Except Failure IamToken) := do
  match ← Http.send network tokenOperation (tokenRequest endpoints form) with
  | .error e => return .error e
  | .ok reply => return tokenOfReply (← clock) reply

/-- Trades a refresh token in; the new pair keeps the accounts that were asked for. -/
def refreshToken {m : Type → Type} [Monad m] (network : Network m) (clock : m Moment)
    (endpoints : IamEndpoints) (refresh : Secret) (account imsAccount : Option String) :
    m (Except Failure IamToken) := do
  let r ← requestToken network clock endpoints (refreshForm refresh account imsAccount)
  return r.map fun t => { t with account := account, imsAccount := imsAccount }

def requestAccounts {m : Type → Type} [Monad m] (network : Network m)
    (endpoints : IamEndpoints) (access : Secret) : m (Except Failure (List IamAccount)) := do
  match ← Http.send network accountsOperation (accountsRequest endpoints access) with
  | .error e => return .error e
  | .ok reply => return accountsOfReply reply

end Iam

end CloudClient
