import CloudClient.Call.Request
import CloudClient.Failure
import CloudClient.Json.Printer
import CloudClient.Text.Sha256
import CloudClient.Text.Utf8

/-!
# Journal — the last attempts of a client

Every attempt at an exchange leaves a record.  Only so many are kept; a new one
pushes the oldest out.
-/

namespace CloudClient

/-- What is kept of an attempt. -/
structure CallRecord where
  service : String
  method : String
  /-- The start of the digest of the arguments. -/
  argsDigest : String
  format : WireFormat
  status : Option Nat
  faultCode : Option String
deriving DecidableEq, Repr

namespace CallRecord

def digestLength : Nat := 16

/-- The start of the digest of some arguments, taken of their JSON text. -/
def digest (args : List Json) : String :=
  let bytes := Utf8.encode (Json.arr args).compact.toList
  .ofList ((Sha256.hexDigest bytes).take digestLength)

def ofAttempt (format : WireFormat) (r : Request) (outcome : Except Failure Response) :
    CallRecord where
  service := r.service
  method := r.method
  argsDigest := digest r.args
  format := format
  status :=
    match outcome with
    | .ok response => some response.status
    | .error e => e.status?
  faultCode :=
    match outcome with
    | .ok _ => none
    | .error e => e.faultCode?

def toJson (r : CallRecord) : Json :=
  .object [("service", .str r.service), ("method", .str r.method),
    ("args_digest", .str r.argsDigest), ("transport", .str r.format.text),
    ("http_status", .opt .nat r.status), ("fault_code", .opt .str r.faultCode)]

end CallRecord

structure Journal where
  capacity : Nat
  /-- The records, oldest first. -/
  records : List CallRecord
deriving Repr

namespace Journal

def standardCapacity : Nat := 1000

def empty (capacity : Nat) : Journal := ⟨capacity, []⟩

/-- Adds a record and drops the oldest ones that are too many. -/
def push (j : Journal) (r : CallRecord) : Journal :=
  let all := j.records ++ [r]
  { j with records := all.drop (all.length - j.capacity) }

def clear (j : Journal) : Journal := { j with records := [] }

end Journal

end CloudClient
