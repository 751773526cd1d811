import CloudClient.Call.Naming
import CloudClient.Text.Search

/-!
# Prepared requests

A request in its HTTP form, before it is sent, and the two texts that show it to
a user: a `curl` command and the raw request.  What an authorization header
grants is left out of both.
-/

namespace CloudClient

structure PreparedRequest where
  verb : Verb
  url : String
  headers : List (String × String)
  body : Option String
deriving DecidableEq, Repr

namespace PreparedRequest

/-- An authorization without what it grants: its scheme, if it names one. -/
def redacted (value : String) : String :=
  match Text.splitOnce? (· == ' ') value.toList with
  | some (scheme, _) => .ofList scheme ++ " $TOKEN"
  | none => "$TOKEN"

def shownValue (name value : String) : String :=
  if Text.equalIgnoringCase name "authorization" then redacted value else value

def shownHeader (header : String × String) : String :=
  header.1 ++ ": " ++ shownValue header.1 header.2

/-- A body between single quotes, with its own quotes written as `'\''`. -/
def quotedBody (body : String) : String :=
  "'" ++ Text.join "'\\''" (Text.splitString '\'' body) ++ "'"

def curl (p : PreparedRequest) : String :=
  let start := "curl -X " ++ p.verb.text ++ " '" ++ p.url ++ "'"
  let headers := p.headers.map fun h => "-H '" ++ shownHeader h ++ "'"
  let body :=
    match p.body with
    | some b => ["-d " ++ quotedBody b]
    | none => []
  Text.join " " (start :: headers ++ body)

def raw (p : PreparedRequest) : String :=
  let start := p.verb.text ++ " " ++ p.url ++ " HTTP/1.1"
  let head := Text.join "\n" (start :: p.headers.map shownHeader) ++ "\n"
  match p.body with
  | some b => head ++ "\n" ++ b
  | none => head

end PreparedRequest

end CloudClient
