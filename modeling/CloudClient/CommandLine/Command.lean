import CloudClient.Call.Request
import CloudClient.Client.Plan
import CloudClient.CommandLine.Arguments
import CloudClient.Guests

/-!
# Commands

Everything that can be asked for on the command line, and the switches and operands
that say it.

* `Invocation.read` reads arguments.
* `Choices.ofLevels` is what the switches of every command choose.
-/

namespace CloudClient

open Arguments (Form Level Switch)

/-! ## What is asked for -/

structure CallCommand where
  service : String
  method : String
  /-- Arguments by position, as texts. -/
  params : List String
  id : Option Int
  mask : Option String
  /-- The filter as JSON text. -/
  filter : Option String
  limit : Option Nat
  offset : Nat
  all : Bool
  /-- Whether the request is shown and not sent. -/
  reproduce : Bool

/-- What is asked for; a file of an order holds an order request, a file of extras the
entries that go over a quote. -/
inductive Command where
  | call (c : CallCommand)
  | listGuests (l : Guests.Listing)
  | showGuest (identifier : String) (mask : Option String)
  | resolveGuest (identifier : String)
  | verifyOrder (file : String)
  | placeOrder (file : String)
  | quoteOrder (file name : String) (sendEmail : Bool)
  | listItems (package : String)
  | listPresets (package : String)
  | listCategories (package : String)
  | listRegions (package : String)
  | listQuotes
  | verifyQuote (id : Int) (extras : Option String)
  | orderQuote (id : Int) (extras : Option String)

/-- What is chosen for any command; the settings hold where nothing is. -/
structure Choices where
  config : Option String
  endpointUrl : Option String
  format : Option WireFormat
  timeoutSeconds : Option Nat
  retries : Option Nat

structure Invocation where
  choices : Choices
  command : Command

/-! ## Values -/

/-- A 32-bit number without sign; a minus in front of zero does no harm. -/
def number32? (s : String) : Option Nat :=
  ((Text.i64? s).filter fun (i : Int) => decide (0 ≤ i ∧ i ≤ Text.maxU32)).map Int.toNat

def flag? : String → Option Bool
  | "true" => some true
  | "false" => some false
  | _ => none

def anyText : String → Bool := fun _ => true

def isPath (s : String) : Bool := !s.isEmpty

def reads {α : Type} (read : String → Option α) : String → Bool := fun s => (read s).isSome

/-! ## Switches -/

def valued (name : String) (accepts : String → Bool) : Switch := ⟨name, none, .value accepts⟩

def bare (name : String) : Switch := ⟨name, none, .nothing⟩

def commonSwitches : List Switch :=
  [⟨"config", some 'C', .value isPath⟩,
    valued "endpoint-url" anyText,
    valued "transport" (reads WireFormat.ofText?),
    valued "timeout" (reads Text.u64?),
    valued "retries" (reads Text.u64?),
    ⟨"verbose", some 'v', .count⟩,
    ⟨"help", some 'h', .help⟩,
    ⟨"version", some 'V', .version⟩]

def Choices.ofLevels (levels : List Level) : Choices where
  config := Arguments.value? levels "config"
  endpointUrl := Arguments.value? levels "endpoint-url"
  format := (Arguments.value? levels "transport").bind WireFormat.ofText?
  timeoutSeconds := (Arguments.value? levels "timeout").bind Text.u64?
  retries := (Arguments.value? levels "retries").bind Text.u64?

/-! ## Forms -/

def about (name : String) (command : String → Command) : Form Command :=
  .leaf name [] [anyText] fun l => l.operands.head?.map command

def aboutFile (name : String) (command : String → Command) : Form Command :=
  .leaf name [] [isPath] fun l => l.operands.head?.map command

def aboutQuote (name : String) (command : Int → Option String → Command) : Form Command :=
  .leaf name [valued "extras" isPath] [reads Text.i64?] fun l =>
    (l.operands.head?.bind Text.i64?).map fun id => command id (l.value? "extras")

/-- `call-api SERVICE METHOD [PARAMS]`. -/
def callForm : Form Command where
  name := "call-api"
  switches :=
    [valued "id" (reads Text.i64?), valued "mask" anyText, valued "filter" anyText,
      valued "limit" (reads number32?), valued "offset" (reads number32?), bare "all",
      bare "reproduce"]
  operands := [anyText, anyText]
  more := true
  commands := []
  meaning := fun l =>
    match l.operands with
    | service :: method :: params => some (.call
        { service := service
          method := method
          params := params
          id := l.reading? "id" Text.i64?
          mask := l.value? "mask"
          filter := l.value? "filter"
          limit := l.reading? "limit" number32?
          offset := (l.reading? "offset" number32?).getD 0
          all := l.has "all"
          reproduce := l.has "reproduce" })
    | _ => none

/-- `vs list`; the two kinds of billing exclude each other. -/
def listGuestsForm : Form Command :=
  .leaf "list"
    [bare "hourly", bare "monthly", valued "datacenter" anyText,
      ⟨"hostname", some 'H', .value anyText⟩, ⟨"domain", some 'D', .value anyText⟩,
      valued "cpu" (reads number32?), valued "memory" (reads number32?),
      valued "network" (reads number32?), valued "local-disk" (reads flag?),
      ⟨"tag", none, .values anyText⟩, valued "public-ip" anyText, valued "private-ip" anyText]
    [] fun l =>
      if l.has "hourly" && l.has "monthly" then none
      else some (.listGuests
        { Guests.Listing.all with
          hourly := !l.has "monthly"
          monthly := !l.has "hourly"
          tags := l.values "tag"
          cpus := l.reading? "cpu" number32?
          memory := l.reading? "memory" number32?
          hostname := l.value? "hostname"
          domain := l.value? "domain"
          localDisk := l.reading? "local-disk" flag?
          datacenter := l.value? "datacenter"
          nicSpeed := l.reading? "network" number32?
          publicIp := l.value? "public-ip"
          privateIp := l.value? "private-ip" })

/-- `vs detail ID`. -/
def showGuestForm : Form Command :=
  .leaf "detail" [valued "mask" anyText] [anyText] fun l =>
    l.operands.head?.map fun identifier => .showGuest identifier (l.value? "mask")

/-- `order quote FILE`; the quote needs a name. -/
def quoteOrderForm : Form Command :=
  .leaf "quote" [valued "name" anyText, bare "send-email"] [isPath] fun l => do
    return .quoteOrder (← l.operands.head?) (← l.value? "name") (l.has "send-email")

def orderForm : Form Command :=
  .group "order"
    [aboutFile "verify" .verifyOrder, aboutFile "place" .placeOrder, quoteOrderForm,
      about "item-list" .listItems, about "preset-list" .listPresets,
      about "category-list" .listCategories, about "package-locations" .listRegions,
      .leaf "quote-list" [] [] fun _ => some .listQuotes,
      aboutQuote "quote-verify" .verifyQuote, aboutQuote "quote-place" .orderQuote]

def programForm : Form Command :=
  .group "slcli"
    [callForm, .group "vs" [listGuestsForm, showGuestForm],
      .group "resolve" [about "vs" .resolveGuest], orderForm]

def Invocation.read (args : List String) : Except Arguments.Stop Invocation :=
  (Arguments.read commonSwitches programForm args).map fun (levels, command) =>
    ⟨.ofLevels levels, command⟩

end CloudClient
