import CloudClient.Auth.Moment
import CloudClient.Call.Request

/-!
# Credentials

A call is authenticated by an API key, by the token of a portal session or by an
IAM token.  How a credential is attached depends on the wire format.
-/

namespace CloudClient

structure IamToken where
  access : Secret
  refresh : Option Secret
  expiresAt : Option Moment
  /-- The account that the pair is scoped to. -/
  account : Option String
  /-- The infrastructure account linked to it. -/
  imsAccount : Option String
deriving DecidableEq

namespace IamToken

def ofAccess (access : Secret) : IamToken := ⟨access, none, none, none, none⟩

/-- How long before its end a token is replaced, in seconds, unless the client says
otherwise. -/
def standardSkew : Int := 60

/-- Whether the token ends within a span of seconds from now.  A token without an end
never does.  The sum is taken without the bounds of the calendar: a client's span is short
against them, so that no present that a clock gives comes near. -/
def needsRefresh (t : IamToken) (now : Moment) (skew : Int) : Bool :=
  match t.expiresAt with
  | some e => (now.after skew).reached e
  | none => false

def toJson (t : IamToken) : Json :=
  .object [("kind", .str "iam_token"), ("access_token", .str t.access.exposed),
    ("refresh_token", .opt (fun s => .str (Secret.exposed s)) t.refresh),
    ("expires_at", .opt (fun m => .int (Moment.seconds m)) t.expiresAt),
    ("account_id", .opt .str t.account), ("ims_account", .opt .str t.imsAccount)]

end IamToken

inductive Credential where
  | basic (username : String) (apiKey : Secret)
  | session (userId : Int) (token : Secret)
  | iam (token : IamToken)
deriving DecidableEq

namespace Credential

def kind : Credential → String
  | .basic .. => "basic_api_key"
  | .session .. => "session_token"
  | .iam _ => "iam_token"

def toJson : Credential → Json
  | .basic username apiKey =>
    .object [("kind", .str "basic_api_key"), ("username", .str username),
      ("api_key", .str apiKey.exposed)]
  | .session userId token =>
    .object [("kind", .str "session_token"), ("user_id", .int userId),
      ("auth_token", .str token.exposed)]
  | .iam token => token.toJson

/-- Puts an entry named `authenticate` into the header container. -/
def authenticate (r : Request) (entry : List (String × Json)) : Request :=
  { r with headers := r.headers.insert "authenticate" (.object entry) }

def attach (c : Credential) (format : WireFormat) (r : Request) : Request :=
  match c, format with
  | .basic username apiKey, .xmlRpc =>
    authenticate r [("username", .str username), ("apiKey", .str apiKey.exposed)]
  | .basic username apiKey, .rest => { r with user := some username, password := some apiKey }
  | .session userId token, .xmlRpc =>
    authenticate r [("complexType", .str "PortalLoginToken"), ("userId", .int userId),
      ("authToken", .str token.exposed)]
  | .session userId token, .rest =>
    { r with user := some (Text.ofInt userId), password := some token }
  | .iam token, _ =>
    { r with
      httpHeaders := r.httpHeaders ++ [("Authorization", "Bearer " ++ token.access.exposed)] }

/-- The credential with everything secret replaced by a placeholder. -/
def placeholder : Credential → Credential
  | .basic username _ => .basic username ⟨"$API_KEY"⟩
  | .session userId _ => .session userId ⟨"$TOKEN"⟩
  | .iam _ => .iam (.ofAccess ⟨"$TOKEN"⟩)

end Credential

end CloudClient
