import CloudClient.Client.Pager
import CloudClient.Client.Resolver

/-!
# Guests — virtual servers of an account

Listings by many properties, one server in detail, and the ids behind addresses and
host names.

* `Guests.Listing.filter` is the filter of a listing; it always orders by id.
* `Guests.ids` and `Guests.id` resolve identifiers.
-/

namespace CloudClient.Guests

/-! ## Masks -/

def listMask : String :=
  "mask[id,globalIdentifier,hostname,domain,fullyQualifiedDomainName," ++
    "primaryBackendIpAddress,primaryIpAddress,lastKnownPowerState.name," ++
    "powerState,maxCpu,maxMemory,datacenter," ++
    "activeTransaction.transactionStatus[friendlyName,name],status]"

def detailMask : String :=
  "mask[id,globalIdentifier,fullyQualifiedDomainName,hostname,domain," ++
    "createDate,modifyDate,provisionDate,notes,dedicatedAccountHostOnlyFlag," ++
    "privateNetworkOnlyFlag,primaryBackendIpAddress,primaryIpAddress," ++
    "networkComponents[id,status,speed,maxSpeed,name,macAddress," ++
    "primaryIpAddress,port,primarySubnet]," ++
    "lastKnownPowerState.name,powerState,status,maxCpu,maxMemory,datacenter," ++
    "activeTransaction[id,transactionStatus[friendlyName,name]]," ++
    "lastOperatingSystemReload.id,blockDevices," ++
    "blockDeviceTemplateGroup[id,name,globalIdentifier],postInstallScriptUri," ++
    "operatingSystem[passwords[username,password]," ++
    "softwareLicense.softwareDescription[manufacturer,name,version,referenceCode]]," ++
    "hourlyBillingFlag,userData,billingItem.recurringFee," ++
    "tagReferences[id,tag[name,id]],networkVlans[id,vlanNumber,networkSpace]]"

/-! ## Listings -/

/-- Which servers to list; what is not set does not matter. -/
structure Listing where
  hourly : Bool
  monthly : Bool
  /-- Tags of which one is enough. -/
  tags : List String
  cpus : Option Nat
  /-- Memory in megabytes. -/
  memory : Option Nat
  hostname : Option String
  domain : Option String
  localDisk : Option Bool
  datacenter : Option String
  /-- Megabits per second. -/
  nicSpeed : Option Nat
  publicIp : Option String
  privateIp : Option String
  mask : Option String
  /-- A filter that goes over what is set above. -/
  filter : Option Filter
  limit : Option Nat

namespace Listing

def all : Listing :=
  ⟨true, true, [], none, none, none, none, none, none, none, none, none, none, none, none⟩

/-- The method that lists servers of the chosen billing. -/
def method (l : Listing) : String :=
  match l.hourly, l.monthly with
  | true, false => "getHourlyVirtualGuests"
  | false, true => "getMonthlyVirtualGuests"
  | _, _ => "getVirtualGuests"

/-- The property under which listings filter, whatever the method. -/
def scope : String := "virtualGuests"

/-- What is set, as paths below the scope and leaves, in order. -/
def leaves (l : Listing) : List (String × FilterNode) :=
  let number := fun (n : Nat) => Shorthand.integer n
  (if l.tags.isEmpty then []
    else [("tagReferences.tag.name", Shorthand.among (l.tags.map Json.str))]) ++
  (l.cpus.map fun n => ("maxCpu", number n)).toList ++
  (l.memory.map fun n => ("maxMemory", number n)).toList ++
  (l.hostname.map fun s => ("hostname", Shorthand.text s)).toList ++
  (l.domain.map fun s => ("domain", Shorthand.text s)).toList ++
  (l.localDisk.map fun b => ("localDiskFlag", Shorthand.boolean b)).toList ++
  (l.datacenter.map fun s => ("datacenter.name", Shorthand.text s)).toList ++
  (l.nicSpeed.map fun n => ("networkComponents.maxSpeed", number n)).toList ++
  (l.publicIp.map fun s => ("primaryIpAddress", Shorthand.text s)).toList ++
  (l.privateIp.map fun s => ("primaryBackendIpAddress", Shorthand.text s)).toList

def ownFilter (l : Listing) : Except QueryError Filter :=
  l.leaves.foldlM (fun f (path, node) => f.set (scope ++ "." ++ path) node) .empty

/-- The filter of the listing: what is set, the caller's filter over it, and an order. -/
def toFilter (l : Listing) : Except Failure Filter :=
  match l.ownFilter with
  | .error e => .error (.argument e.message)
  | .ok own =>
    let merged :=
      match l.filter with
      | some f => own.merge f
      | none => own
    .ok (Filter.ordered (some merged) (some scope))

end Listing

def list (l : Listing) : Procedure (List Json) := do
  let filter ← ExceptT.mk (pure l.toFilter)
  Procedure.listing ⟨"Account", l.method, [],
    { CallOptions.none with
      mask := some (l.mask.getD listMask)
      filter := some filter
      limit := l.limit }⟩

def detail (id : Int) (mask : Option String) : Procedure Json :=
  Procedure.call "Virtual_Guest" "getObject" []
    { CallOptions.none with id := some id, mask := some (mask.getD detailMask) }

/-! ## Identifiers -/

def idsOf (l : Listing) : Procedure (List Int) := do
  let found ← list { l with mask := some "id" }
  return found.filterMap fun guest => (guest.get? "id").bind Json.i64?

/-- Whether digits write a number of an address: at most 255, without needless zeros. -/
def isOctet (cs : List Char) : Bool :=
  cs.length ≤ 3 && (cs.length ≤ 1 || cs.head? != some '0') &&
    (Text.natural? cs).any fun n => n ≤ 255

def isIpv4 (s : String) : Bool :=
  let parts := Text.splitAll (· == '.') s.toList
  parts.length == 4 && parts.all isOctet

/-- The servers with an address: a public one, else a private one. -/
def idsByAddress (identifier : String) : Procedure (List Int) := do
  let address := Text.trimmed identifier
  if !isIpv4 address then return []
  match ← idsOf { Listing.all with publicIp := some address } with
  | [] => idsOf { Listing.all with privateIp := some address }
  | ids => return ids

def idsByHostname (identifier : String) : Procedure (List Int) :=
  idsOf { Listing.all with hostname := some identifier }

def resolvers : List (Resolver Plan) :=
  [⟨"ip_address", fun s => ExceptT.run (idsByAddress s)⟩,
    ⟨"hostname", fun s => ExceptT.run (idsByHostname s)⟩]

def objectType : String := "virtual server"

def ids (identifier : String) : Procedure (List Int) :=
  ExceptT.mk (Resolver.ids resolvers identifier)

def id (identifier : String) : Procedure Int :=
  ExceptT.mk (Resolver.id objectType resolvers identifier)

end CloudClient.Guests
