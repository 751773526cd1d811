import CloudClient.Text.Blank
import CloudClient.Text.Integer
import CloudClient.Text.Search

/-!
# Kinds of service faults

A fault carries a code, a text and perhaps the HTTP status of its reply.  The
first rule that applies decides its kind; a rejected API token comes first, so
that no other part of the fault makes it worth another attempt.

* `classify_of_rejected_token`: a rejected token is an authentication fault.
-/

namespace CloudClient

inductive FaultKind where
  | authentication
  | authorization
  | notFound
  | rateLimit
  | validation
  | serverInternal
  | other
deriving DecidableEq, Repr

namespace FaultKind

def text : FaultKind → String
  | .authentication => "authentication"
  | .authorization => "authorization"
  | .notFound => "not_found"
  | .rateLimit => "rate_limit"
  | .validation => "validation"
  | .serverInternal => "server_internal"
  | .other => "other"

def serverCodes : List Int := [-32603, -32500, -32400, -32300]

def requestCodes : List Int := [-32700, -32701, -32702, -32600, -32602]

def missingMethodCode : Int := -32601

/-- A fault code as a number, blanks around it apart. -/
def numericCode? (code : String) : Option Int :=
  Text.i64? (Text.trimmed code)

/-- What marks the fault text of a rejected API token. -/
def rejectedToken : String := "Invalid API token"

def hasCode (code : String) (codes : List Int) : Bool :=
  match numericCode? code with
  | some n => codes.contains n
  | none => false

/-- The kind of a fault; the first rule that applies wins. -/
def classify (code text : String) (status : Option Nat) : FaultKind :=
  let status := status.getD 0
  if Text.contains text rejectedToken then .authentication
  else if Text.contains code "RateLimitExceeded" || status == 429 then .rateLimit
  else if code == "SoftLayer_Exception_Public" || Text.contains text "Please try again" ||
      (500 ≤ status && status < 600) || hasCode code serverCodes then .serverInternal
  else if Text.contains code "InvalidCredentials" || Text.contains code "InvalidLegacyToken" ||
      Text.contains code "LoginFailed" || status == 401 then .authentication
  else if Text.contains code "PermissionDenied" || status == 403 then .authorization
  else if Text.contains code "NotFound" || hasCode code [missingMethodCode] ||
      status == 404 then .notFound
  else if Text.contains code "Invalid" || Text.contains code "Missing" ||
      hasCode code requestCodes || (400 ≤ status && status < 500) then .validation
  else .other

def isRetriable : FaultKind → Bool
  | .rateLimit | .serverInternal => true
  | _ => false

/-- A rejected token is an authentication fault whatever code and status come with it. -/
theorem classify_of_rejected_token {code text : String} {status : Option Nat}
    (h : Text.contains text rejectedToken = true) :
    classify code text status = .authentication := by
  simp [classify, h]

end FaultKind

end CloudClient
