import CloudClient.Auth.Credential
import CloudClient.Settings.Ini
import CloudClient.Settings.Variable
import CloudClient.Settings.Yaml
import CloudClient.Failure
import CloudClient.Text.Quoted

/-!
# Settings — what a user configures

Settings come from a file, either a section of an INI file or a YAML document, and
from environment variables, which go over the file.

* `Settings.load` reads both.
* `Settings.endpoint`, `Settings.wireFormat` and `Settings.timeout` are the values in
  use, whether they are set or not.
* `Settings.credential?` is the credential that the settings give.
-/

namespace CloudClient

/-- What a user configures; nothing has to be set. -/
structure Settings where
  username : Option String
  apiKey : Option Secret
  endpointUrl : Option String
  timeoutSeconds : Option Nat
  proxy : Option String
  verify : Option Bool
  accessToken : Option Secret
  refreshToken : Option Secret
  account : Option String
  imsAccount : Option String
  userId : Option Int
  format : Option WireFormat
  userAgent : Option String
deriving DecidableEq

namespace Settings

/-! ## Reading single settings -/

abbrev Reading (α : Type) := Except String (Option α)

def wrong {α : Type} (expected : String) : Reading α :=
  .error ("invalid type, expected " ++ expected)

def readText : Value → Reading String
  | .null => .ok none
  | .text s => .ok (some s)
  | .letter c => .ok (some (String.singleton c))
  | _ => wrong "a text"

def readSecret (v : Value) : Reading Secret := (readText v).map (·.map Secret.mk)

/-- An integer, as a number or as text; a blank text is none. -/
def readInteger (inRange : Int → Bool) (ofText? : String → Option Int) : Value → Reading Int
  | .null => .ok none
  | .integer i => if inRange i then .ok (some i) else wrong "a number in range"
  | .text s =>
    if Text.isBlankText s then .ok none
    else
      match ofText? (Text.trimmed s) with
      | some i => .ok (some i)
      | none => wrong "a number"
  | _ => wrong "a number"

def readSeconds (v : Value) : Reading Nat :=
  (readInteger (fun i => decide (0 ≤ i ∧ i ≤ Text.maxU64))
    (fun s => (Text.u64? s).map Int.ofNat) v).map (·.map Int.toNat)

def readId (v : Value) : Reading Int := readInteger Text.fitsI64 Text.i64? v

/-- A truth value, as such or in words; a blank text is none. -/
def readFlag : Value → Reading Bool
  | .null => .ok none
  | .flag b => .ok (some b)
  | .text s =>
    match Text.asciiLower (Text.trimmed s) with
    | "" => .ok none
    | "1" | "true" | "yes" | "on" => .ok (some true)
    | "0" | "false" | "no" | "off" => .ok (some false)
    | word => .error ("expected a boolean, got '" ++ word ++ "'")
  | _ => wrong "a boolean"

def readWord (s : String) : Reading WireFormat :=
  match WireFormat.ofText? s with
  | some f => .ok (some f)
  | none => wrong "a transport"

/-- A wire format: its word, or a table with nothing under that word, which is the
first of its keys. -/
def readFormat : Value → Reading WireFormat
  | .null => .ok none
  | .text s => readWord s
  | .table ((key, .null) :: _) => readWord key
  | _ => wrong "a transport"

/-! ## Layers -/

abbrev Layer := Fields Value

/-- The settings that a layer holds; names that are no setting say nothing. -/
def ofLayer (layer : Layer) : Except String Settings := do
  let get {α : Type} (name : String) (read : Value → Reading α) : Reading α :=
    match Fields.find? name layer with
    | some v => read v
    | none => .ok none
  return {
    username := ← get "username" readText
    apiKey := ← get "api_key" readSecret
    endpointUrl := ← get "endpoint_url" readText
    timeoutSeconds := ← get "timeout" readSeconds
    proxy := ← get "proxy" readText
    verify := ← get "verify" readFlag
    accessToken := ← get "access_token" readSecret
    refreshToken := ← get "refresh_token" readSecret
    account := ← get "account_id" readText
    imsAccount := ← get "ims_account" readText
    userId := ← get "userid" readId
    format := ← get "transport" readFormat
    userAgent := ← get "user_agent" readText }

inductive FileContent where
  | missing
  | directory
  | text (s : String)
deriving DecidableEq, Repr

/-- Where the settings are if no other file is named, below the home directory. -/
def standardFile : String := ".softlayer"

def sectionName : String := "softlayer"

def fileName (path : String) : String :=
  ((Text.splitString '/' path).filter fun part => !part.isEmpty && part != ".").getLast?.getD ""

/-- The text after the last dot of a file name, if something stands before that dot. -/
def extension? (path : String) : Option String :=
  match (Text.splitString '.' (fileName path)).reverse with
  | last :: before :: more => if before.isEmpty && more.isEmpty then none else some last
  | _ => none

def isYaml (path : String) : Bool :=
  (extension? path).any fun e =>
    Text.equalIgnoringCase e "yaml" || Text.equalIgnoringCase e "yml"

def ofFile (path : String) (content : FileContent) : Except String Layer :=
  if isYaml path then
    match content with
    | .text s =>
      match Yaml.read? s with
      | some entries => .ok (Fields.ofList entries)
      | none => .error ("malformed YAML in " ++ path)
    | _ => .ok []
  else
    match content with
    | .missing => .ok []
    | .directory => .error ("failed to read " ++ path ++ ": Is a directory")
    | .text s => .ok ((Ini.values s sectionName).map fun (k, v) => (k, .text v))

/-- The environment variables that count, in lower case, and the settings they give. -/
def variableNames : List (String × String) :=
  [("https_proxy", "proxy"), ("sl_api_key", "api_key"), ("sl_endpoint_url", "endpoint_url"),
    ("sl_timeout", "timeout"), ("sl_username", "username")]

/-- The setting that an environment variable gives, however it is spelled. -/
def ofVariable? (name : String) : Option String :=
  (variableNames.find? fun (n, _) => n == Text.asciiLower (Text.trimmed name)).map (·.2)

/-- What the environment says; of two variables for one setting the later wins. -/
def ofEnvironment (environment : List (String × String)) : Layer :=
  Fields.ofList (environment.filterMap fun (name, written) =>
    (ofVariable? name).map fun key => (key, Variable.read written))

/-- The settings of a file and of the environment, which goes over the file. -/
def load (path : String) (content : FileContent) (environment : List (String × String)) :
    Except Failure Settings :=
  (do ofLayer (Fields.union (← ofFile path content) (ofEnvironment environment))).mapError
    Failure.settings

/-! ## Values in use -/

def wireFormat (s : Settings) : WireFormat := s.format.getD .xmlRpc

def endpoint (s : Settings) : String :=
  (s.endpointUrl.filter fun url => !Text.isBlankText url).getD s.wireFormat.endpoint

def timeout (s : Settings) : Nat := s.timeoutSeconds.getD 120

/-- The credential: an IAM token before an API key, and nothing that is empty. -/
def credential? (s : Settings) : Option Credential :=
  match s.accessToken.filter fun t => !t.isEmpty with
  | some access =>
    some (.iam ⟨access, s.refreshToken.filter fun t => !t.isEmpty, none, s.account, s.imsAccount⟩)
  | none =>
    match s.username.filter fun u => !u.isEmpty, s.apiKey.filter fun k => !k.isEmpty with
    | some username, some key => some (.basic username key)
    | _, _ => none

/-! ## Showing settings -/

def toJson (s : Settings) : Json :=
  let entry {α : Type} (name : String) (f : α → Json) (v : Option α) : List (String × Json) :=
    (v.map fun a => (name, f a)).toList
  let secret := fun (t : Secret) => Json.str t.exposed
  .object (entry "username" .str s.username ++ entry "api_key" secret s.apiKey ++
    entry "endpoint_url" .str s.endpointUrl ++ entry "timeout" .nat s.timeoutSeconds ++
    entry "proxy" .str s.proxy ++ entry "verify" .bool s.verify ++
    entry "access_token" secret s.accessToken ++ entry "refresh_token" secret s.refreshToken ++
    entry "account_id" .str s.account ++ entry "ims_account" .str s.imsAccount ++
    entry "userid" .int s.userId ++
    entry "transport" (fun f => .str (WireFormat.text f)) s.format ++
    entry "user_agent" .str s.userAgent)

def secrets (s : Settings) : List Secret :=
  [s.apiKey, s.accessToken, s.refreshToken].filterMap id

def formatName : WireFormat → String
  | .xmlRpc => "XmlRpc"
  | .rest => "Rest"

/-- The settings in one line for a log, without the secret ones. -/
def shown (s : Settings) : String :=
  let entry {α : Type} (name : String) (f : α → String) (v : Option α) : String :=
    name ++ ": " ++
      match v with
      | some a => "Some(" ++ f a ++ ")"
      | none => "None"
  let hidden := fun t : Secret => Text.quoted t.shown
  "ClientConfig \x7b " ++ Text.join ", " [
    entry "username" Text.quoted s.username,
    entry "api_key" hidden s.apiKey,
    entry "endpoint_url" Text.quoted s.endpointUrl,
    entry "timeout" Text.ofNat s.timeoutSeconds,
    entry "proxy" Text.quoted s.proxy,
    entry "verify" (fun b => if b then "true" else "false") s.verify,
    entry "access_token" hidden s.accessToken,
    entry "refresh_token" hidden s.refreshToken,
    entry "account_id" Text.quoted s.account,
    entry "ims_account" Text.quoted s.imsAccount,
    entry "userid" Text.ofInt s.userId,
    entry "transport" formatName s.format,
    entry "user_agent" Text.quoted s.userAgent] ++ " \x7d"

end Settings

end CloudClient
