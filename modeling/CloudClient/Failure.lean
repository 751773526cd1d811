import CloudClient.Failure.FaultKind

/-!
# Failure — why an operation of the client gives no result

An exchange may break down, a service may answer with a fault, a reply may be
unreadable; orders and identifiers may fail to resolve; arguments and settings
may be wrong.  Before anything is sent a mask, a filter, a path or a date may be refused.
The wording of each cause is in `QueryError.message` and `Failure.message`.
-/

namespace CloudClient

/-! ## Queries -/

/-- Why a query text or value is refused. -/
inductive QueryError where
  | unbalancedMask (text : String)
  | emptyMaskField (text : String)
  | incompatibleMasks (left right : String)
  /-- A value is no filter; the path names the offending node. -/
  | invalidFilter (path reason : String)
  /-- A dotted path has a blank segment or runs through a leaf. -/
  | invalidPath (path : String)
  | invalidDate (value : String)
deriving DecidableEq, Repr

def QueryError.message : QueryError → String
  | .unbalancedMask text => "Unbalanced brackets in object mask: " ++ text
  | .emptyMaskField text => "Empty field in object mask: " ++ text
  | .incompatibleMasks left right =>
    "Cannot merge '" ++ left ++ "' mask with '" ++ right ++ "' mask"
  | .invalidFilter path reason => "Invalid object filter at '" ++ path ++ "': " ++ reason
  | .invalidPath path => "Invalid filter path: " ++ path
  | .invalidDate value => "Invalid date '" ++ value ++ "', expected YYYY-MM-DD"

/-! ## Exchanges -/

/-- How an exchange breaks down. -/
inductive Breakdown where
  /-- No connection: refused, reset or no such host. -/
  | connect
  | timeout
  | tls
  /-- A reply with an error status and no structured fault. -/
  | status (code : Nat)
  /-- Any other fault while the exchange was under way. -/
  | io
deriving DecidableEq, Repr

namespace Breakdown

def text : Breakdown → String
  | .connect => "connect"
  | .timeout => "timeout"
  | .tls => "tls"
  | .status code => "status " ++ Text.ofNat code
  | .io => "io"

def isRetriable : Breakdown → Bool
  | .status code => code == 429 || 500 ≤ code
  | _ => true

def status? : Breakdown → Option Nat
  | .status code => some code
  | _ => none

end Breakdown

/-! ## Operations -/

/-- The cause of a failed operation. -/
inductive Failure where
  | transport (operation : String) (breakdown : Breakdown) (detail : String)
  | fault (operation code text : String) (status : Option Nat)
  | malformed (operation detail : String)
  /-- An order could not be resolved; the key name is the offending input. -/
  | ordering (operation keyname detail : String)
  /-- An identifier matched none or several objects. -/
  | unresolved (operation identifier : String) (candidates : List Int) (detail : String)
  | argument (detail : String)
  | settings (detail : String)
  /-- The client itself gives up without a report: a moment that it computes lies
  outside the calendar. -/
  | crash (detail : String)
deriving DecidableEq, Repr

namespace Failure

def message : Failure → String
  | .transport operation breakdown detail =>
    operation ++ ": transport error (" ++ breakdown.text ++ "): " ++ detail
  | .fault operation code text _ => operation ++ ": " ++ code ++ ": " ++ text
  | .malformed operation detail => operation ++ ": malformed response: " ++ detail
  | .ordering _ _ detail => detail
  | .unresolved _ _ _ detail => detail
  | .argument detail => "Invalid argument: " ++ detail
  | .settings detail => "Configuration error: " ++ detail
  | .crash detail => detail

def category : Failure → String
  | .transport .. => "transport_error"
  | .fault .. => "api_error"
  | .malformed .. => "parse_error"
  | .ordering .. => "ordering_error"
  | .unresolved .. => "resolver_error"
  | .argument _ => "invalid_argument"
  | .settings _ => "config_error"
  | .crash _ => "panic"

def operation? : Failure → Option String
  | .transport operation .. | .fault operation .. | .malformed operation _
  | .ordering operation .. | .unresolved operation .. => some operation
  | .argument _ | .settings _ | .crash _ => none

def faultCode? : Failure → Option String
  | .fault _ code _ _ => some code
  | _ => none

def faultKind? : Failure → Option FaultKind
  | .fault _ code text status => some (.classify code text status)
  | _ => none

def status? : Failure → Option Nat
  | .transport _ breakdown _ => breakdown.status?
  | .fault _ _ _ status => status
  | _ => none

def isRetriable : Failure → Bool
  | .transport _ breakdown _ => breakdown.isRetriable
  | .fault _ code text status => (FaultKind.classify code text status).isRetriable
  | _ => false

end Failure

end CloudClient
