import CloudClient.Call.Http

/-!
# Offline networks

The network of a machine without any connection: no name can be looked up and no
address can be reached.  `Network.offline` tells for every request at which step of the
way to its first host the exchange breaks down.
-/

namespace CloudClient

namespace Offline

/-- Whether a host is an address already; other hosts are names to look up. -/
def isAddress (host : String) : Bool :=
  host.toList.head? == some '[' || (Url.dottedValue? host.toList).isSome

/-- Whether the machine knows a host without looking it up. -/
def isKnown (host : String) : Bool := isAddress host || host == "localhost"

def hostReason (host : String) : String :=
  if isKnown host then "tcp connect error: Network is unreachable (os error 101)"
  else
    "dns error: failed to lookup address information: Temporary failure in name resolution"

def hostOf (u : Url) : String := (u.authority.map (·.host)).getD ""

def proxyOf (w : WireRequest) : Option Url := w.proxy.bind fun p => (Http.proxyUrl p).toOption

/-- Why a request to an address does not leave the machine: a secure one goes through a
tunnel if it has a proxy. -/
def reason (w : WireRequest) (target : Url) : String :=
  match proxyOf w with
  | none => hostReason (hostOf target)
  | some proxy =>
    (if target.scheme == "https" then
      "tunnel error: failed to create underlying connection: " else "") ++
      hostReason (hostOf proxy)

end Offline

def Network.offline {m : Type → Type} [Monad m] : Network m := fun w =>
  let reason :=
    match Http.target w.request.url with
    | .ok target => Offline.reason w target
    | .error reason => reason
  return .error (.connect, "client error (Connect): " ++ reason)

end CloudClient
