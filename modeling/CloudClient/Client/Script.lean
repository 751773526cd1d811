import CloudClient.Call.Transport

/-!
# Scripts — services that answer by plan

A service for trying clients out without a network: every operation has a list of
answers, one for each time it is called, and all requests are kept.  When the answers are
used up, the last one repeats.
-/

namespace CloudClient

/-- How an operation answers, one call after the other. -/
abbrev Script := List (Request → Except Failure Response)

namespace Script

/-- The answer to the call after `n` earlier ones; the last answer repeats. -/
def answer? (s : Script) (n : Nat) : Option (Request → Except Failure Response) :=
  s[min n (s.length - 1)]?

/-- The service of scripts by operation, over the requests that it was given, last first;
operations without script answer with `otherwise`. -/
def transport (scripts : String → Script) (otherwise : Request → Except Failure Response) :
    Transport (StateM (List Request)) := fun r => do
  let given ← get
  set (r :: given)
  let before := given.countP fun q => q.operation == r.operation
  return ((scripts r.operation).answer? before).getD otherwise r

end Script

end CloudClient
