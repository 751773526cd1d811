import CloudClient.Call.Rest
import CloudClient.XmlRpc.Message

/-!
# Transport — one call, one exchange

A transport takes a call and gives its decoded reply.  Over a network it encodes
the call in a wire format, sends it and reads the reply.
-/

namespace CloudClient

/-- What carries calls, in some monad. -/
abbrev Transport (m : Type → Type) := Request → m (Except Failure Response)

namespace WireFormat

def prepare : WireFormat → Request → Except Failure PreparedRequest
  | .xmlRpc => XmlRpc.prepare
  | .rest => Rest.prepare

def decode : WireFormat → Request → HttpReply → Except Failure Response
  | .xmlRpc => XmlRpc.decode
  | .rest => Rest.decode

end WireFormat

def Network.transport {m : Type → Type} [Monad m] (network : Network m) (format : WireFormat) :
    Transport m := fun r =>
  match format.prepare r with
  | .error e => return .error e
  | .ok prepared => do
    match ← Http.send network r.operation ⟨prepared, r.timeoutMs, r.proxy, r.verify⟩ with
    | .error e => return .error e
    | .ok reply => return format.decode r reply

end CloudClient
