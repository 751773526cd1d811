import CloudClient.Client
import CloudClient.CommandLine.Command
import CloudClient.Json.Printer
import CloudClient.Ordering

/-!
# Command line

From the arguments of the program to what it prints: settings are loaded, the choices
of the command line go over them, and the command is carried out on a client.

* `CommandLine.run` is the whole program over what it needs from outside.
-/

namespace CloudClient

/-- What the program needs from outside, in some monad. -/
structure Desk (m : Type → Type) where
  read : String → m Settings.FileContent
  /-- The file of the settings, if no other is chosen. -/
  settingsFile : String
  environment : List (String × String)
  network : Network m
  clock : m Moment

structure Outcome where
  /-- The exit code: zero, one after a failure, two after arguments that cannot be
  understood. -/
  exit : Nat
  out : String
  err : String
deriving DecidableEq, Repr

/-- Why a command gives no result, and what is behind it. -/
structure Complaint where
  text : String
  cause : Option String
deriving DecidableEq, Repr

def Complaint.message (c : Complaint) : String :=
  "Error: " ++ c.text ++ (c.cause.map fun cause => "\n\nCaused by:\n    " ++ cause).getD "" ++ "\n"

namespace CommandLine

abbrev Work (m : Type → Type) := ExceptT Complaint (StateT ClientState m)

variable {m : Type → Type} [Monad m]

/-! ## Settings -/

def chosen (s : Settings) (c : Choices) : Settings :=
  { s with
    endpointUrl := c.endpointUrl.orElse fun _ => s.endpointUrl
    format := c.format.orElse fun _ => s.format
    timeoutSeconds := c.timeoutSeconds.orElse fun _ => s.timeoutSeconds }

def clientOf (s : Settings) (c : Choices) : Client :=
  let client := Client.ofSettings (chosen s c)
  match c.retries with
  | some n => { client with retry := { RetryPolicy.standard with maxRetries := n } }
  | none => client

def load (desk : Desk m) (c : Choices) : m (Except Failure Settings) := do
  let path := c.config.getD desk.settingsFile
  return Settings.load path (← desk.read path) desk.environment

/-! ## Files -/

def orComplain {ε α : Type} (text : String) (cause : ε → String) : Except ε α → Work m α
  | .ok a => return a
  | .error e => throw ⟨text, some (cause e)⟩

def readJson (desk : Desk m) (path : String) : Work m Json := do
  match ← ExceptT.lift (StateT.lift (desk.read path)) with
  | .text s => orComplain (path ++ " is not valid JSON") Json.ReadError.message (Json.read s)
  | .missing => throw ⟨"failed to read " ++ path, some "No such file or directory (os error 2)"⟩
  | .directory => throw ⟨"failed to read " ++ path, some "Is a directory (os error 21)"⟩

def readOrder (desk : Desk m) (path : String) : Work m OrderRequest := do
  orComplain (path ++ " is not an order request") id (OrderRequest.ofJson (← readJson desk path))

/-- The entries in a file of extras; without a file there are none. -/
def readExtras (desk : Desk m) : Option String → Work m (Fields Json)
  | none => return []
  | some path => do
    match ← readJson desk path with
    | .obj members => return members
    | _ => throw ⟨"extras must be a JSON object", none⟩

/-! ## Commands -/

def complaintOf (e : Failure) : Complaint := ⟨e.message, none⟩

def onClient {α : Type} (act : ClientM m α) : Work m α := ExceptT.adapt complaintOf act

def printed (v : Json) : String := v.pretty ++ "\n"

def optionsOf (c : CallCommand) : Work m CallOptions := do
  let filter ←
    match c.filter with
    | some text => some <$> orComplain "invalid --filter" QueryError.message (Filter.ofText text)
    | none => pure none
  return { CallOptions.none with
    id := c.id
    mask := c.mask
    filter := filter
    limit := c.limit
    offset := c.offset }

/-- Carries a call command out: the request is shown, all pages are fetched, or one call
is made. -/
def perform (client : Client) (world : Surroundings m) (c : CallCommand) : Work m String := do
  let call : Call := ⟨c.service, c.method, c.params.map .str, ← optionsOf c⟩
  if c.reproduce then return (← onClient (client.reproduce call)) ++ "\n"
  else if c.all then
    let items ← onClient (client.items world call Pager.unbounded)
    match items.mapM id with
    | .ok values => return printed (.arr values)
    | .error e => throw (complaintOf e)
  else return printed (← onClient (Response.value <$> client.exchange world call))

def execute (desk : Desk m) (client : Client) (world : Surroundings m) (command : Command) :
    Work m String := do
  let result {α : Type} (shown : α → Json) (p : Procedure α) : Work m String := do
    return printed (shown (← onClient (client.carryOut world p)))
  match command with
  | .call c => perform client world c
  | .listGuests l => result .arr (Guests.list l)
  | .showGuest identifier mask =>
    result (fun v => v) do Guests.detail (← Guests.id identifier) mask
  | .resolveGuest identifier =>
    result (fun ids => .arr (ids.map .int)) (Guests.ids identifier)
  | .verifyOrder file => result (fun v => v) (Ordering.verifyOrder (← readOrder desk file))
  | .placeOrder file => result (fun v => v) (Ordering.placeOrder (← readOrder desk file))
  | .quoteOrder file name sendEmail =>
    result (fun v => v) (Ordering.placeQuote (← readOrder desk file) name sendEmail)
  | .listItems package =>
    result (fun items => .arr (items.map Catalog.Item.toJson)) (Ordering.items package none)
  | .listPresets package =>
    result (fun presets => .arr (presets.map Catalog.Preset.toJson)) (Ordering.presets package)
  | .listCategories package => result .arr (Ordering.categories package)
  | .listRegions package => result .arr (Ordering.regions package)
  | .listQuotes => result .arr Ordering.activeQuotes
  | .verifyQuote id extras =>
    result (fun v => v) (Ordering.verifyQuote id (← readExtras desk extras))
  | .orderQuote id extras =>
    result (fun v => v) (Ordering.orderQuote id (← readExtras desk extras))

/-! ## The program -/

def version : String := "0.1.0"

def usage : String :=
  "Usage: slcli [OPTIONS] <COMMAND>\n\nCommands:\n" ++
    String.join (programForm.commands.map fun c => "  " ++ c.name ++ "\n") ++ "\nOptions:\n" ++
    String.join (commonSwitches.map fun s => "  --" ++ s.name ++ "\n")

def outcomeOfStop : Arguments.Stop → Outcome
  | .misuse => ⟨2, "", usage⟩
  | .help => ⟨0, usage, ""⟩
  | .version commands => ⟨0, Text.join "-" commands ++ " " ++ version ++ "\n", ""⟩

def outcomeOf : Except Complaint String → Outcome
  | .ok text => ⟨0, text, ""⟩
  | .error complaint => ⟨1, "", complaint.message⟩

def invoke (desk : Desk m) (i : Invocation) : m (Except Complaint String) := do
  match ← load desk i.choices with
  | .error e => return .error ⟨"failed to load client configuration", some e.message⟩
  | .ok settings =>
    let client := clientOf settings i.choices
    let world : Surroundings m := ⟨desk.network.transport client.format, desk.network, desk.clock⟩
    let start := ClientState.start settings.credential? Journal.standardCapacity
    (·.1) <$> (ExceptT.run (execute desk client world i.command)).run start

def run (desk : Desk m) (args : List String) : m Outcome := do
  match Invocation.read args with
  | .error stop => return outcomeOfStop stop
  | .ok i => return outcomeOf (← invoke desk i)

end CommandLine

end CloudClient
