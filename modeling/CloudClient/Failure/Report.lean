import CloudClient.Failure
import CloudClient.Json

/-!
# Reports — what a program may want to know of a failure

Apart from its wording a failure has a class, which says whether and when another attempt
is made, and a report, with everything else that is known of it.
-/

namespace CloudClient

/-- The class of a failure that retry policies look at. -/
inductive Trigger where
  /-- No connection, a broken one, or no secure channel. -/
  | transportError
  | timeout
  | rateLimit
  | serverFault
  /-- A failure that no policy repeats. -/
  | nonRetryable
deriving DecidableEq, Repr

namespace Trigger

def text : Trigger → String
  | .transportError => "TransportError"
  | .timeout => "Timeout"
  | .rateLimit => "RateLimit"
  | .serverFault => "ServerFault"
  | .nonRetryable => "NonRetryable"

def ofBreakdown : Breakdown → Trigger
  | .timeout => .timeout
  | .status code =>
    if code = 429 then .rateLimit
    else if 500 ≤ code then .serverFault
    else .nonRetryable
  | .connect | .tls | .io => .transportError

def ofFaultKind : FaultKind → Trigger
  | .rateLimit => .rateLimit
  | .serverInternal => .serverFault
  | _ => .nonRetryable

def ofFailure : Failure → Trigger
  | .transport _ breakdown _ => ofBreakdown breakdown
  | .fault _ code text status => ofFaultKind (.classify code text status)
  | _ => .nonRetryable

end Trigger

namespace Failure

/-- What only failures of some kind tell. -/
def particulars : Failure → List (String × Json)
  | .transport _ breakdown _ => [("failure", .str breakdown.text)]
  | .ordering _ keyname _ => [("keyname", .str keyname)]
  | .unresolved _ identifier candidates _ =>
    [("identifier", .str identifier), ("candidates", .arr (candidates.map Json.int))]
  | _ => []

def report (e : Failure) : List (String × Json) :=
  let entry {α : Type} (name : String) (f : α → Json) (v : Option α) : List (String × Json) :=
    (v.map fun a => (name, f a)).toList
  entry "operation" .str e.operation? ++ entry "fault_code" .str e.faultCode? ++
    entry "numeric_fault_code" .int (e.faultCode?.bind FaultKind.numericCode?) ++
    entry "api_kind" (fun k => .str (FaultKind.text k)) e.faultKind? ++
    entry "http_status" .nat e.status? ++
    [("retriable", .bool e.isRetriable), ("trigger", .str (Trigger.ofFailure e).text)] ++
    e.particulars

end Failure

end CloudClient
