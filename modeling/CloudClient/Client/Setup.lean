import CloudClient.Auth.Iam
import CloudClient.Client.Journal
import CloudClient.Retry
import CloudClient.Settings

/-!
# Clients and their state

What is set once for all calls of a client, and what changes while it is used.  A client
from settings that nobody has set up further tries failed calls again by the standard
policy and names itself as the library does.
-/

namespace CloudClient

/-- What is set once for all calls of a client. -/
structure Client where
  /-- The address of the service, without slashes at its end. -/
  endpoint : String
  format : WireFormat
  timeoutMs : Nat
  proxy : Option String
  verify : Bool
  userAgent : String
  retry : RetryPolicy
  /-- How long before its end an IAM token is replaced, in seconds. -/
  skew : Int
  iam : IamEndpoints

/-- What changes while a client is used. -/
structure ClientState where
  credential : Option Credential
  /-- The IAM tokens handed to the owner of the client, last first. -/
  handed : List IamToken
  journal : Journal

namespace Client

/-- The address in use: the given one, or the public one if it is blank, without
slashes at its end. -/
def endpointOf (format : WireFormat) (given : Option String) : String :=
  let address := (given.filter fun url => !Text.isBlankText url).getD format.endpoint
  Text.trimEndChar '/' address

def ofSettings (s : Settings) : Client where
  endpoint := endpointOf s.wireFormat (some s.endpoint)
  format := s.wireFormat
  timeoutMs := 1000 * s.timeout
  proxy := s.proxy
  verify := s.verify.getD true
  userAgent := s.userAgent.getD Request.standardAgent
  retry := .standard
  skew := IamToken.standardSkew
  iam := .standard

end Client

def ClientState.start (credential : Option Credential) (capacity : Nat) : ClientState :=
  ⟨credential, [], .empty capacity⟩

end CloudClient
