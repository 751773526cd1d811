import CloudClient.Text.Search

/-!
# Arguments of a command line

A command takes switches and operands, or one of the commands below it.  Arguments are
read from left to right: the first one that cannot be understood, or that asks for the
version or for help, ends the reading.

* `Arguments.read` gives what was written at each level, the outermost first, and what
  the innermost command makes of it.
* `Arguments.value?` looks a switch up, in the innermost level where it stands.
-/

namespace CloudClient.Arguments

/-! ## What a command takes -/

/-- What follows a switch. -/
inductive Takes where
  /-- Nothing, and it stands once. -/
  | nothing
  /-- Nothing, and it may be repeated. -/
  | count
  /-- A value that is accepted, and it stands once. -/
  | value (accepts : String → Bool)
  /-- A value that is accepted, and it may be repeated. -/
  | values (accepts : String → Bool)
  | version
  | help

def Takes.wantsValue : Takes → Bool
  | .value _ | .values _ => true
  | _ => false

/-- A switch: two dashes and a name, or a dash and a letter. -/
structure Switch where
  name : String
  letter : Option Char
  takes : Takes

/-- What is written at one level of commands. -/
structure Level where
  command : String
  switches : List (String × String)
  operands : List String
deriving Repr

/-- What a command takes, and what it makes of it. -/
structure Form (α : Type) where
  name : String
  switches : List Switch
  /-- What is accepted for each operand that has to be there. -/
  operands : List (String → Bool)
  /-- Whether any number of operands may follow. -/
  more : Bool
  /-- The commands below it, one of which has to follow. -/
  commands : List (Form α)
  /-- What a level stands for, unless its switches do not go together. -/
  meaning : Level → Option α

def Form.leaf {α : Type} (name : String) (switches : List Switch)
    (operands : List (String → Bool)) (meaning : Level → Option α) : Form α :=
  ⟨name, switches, operands, false, [], meaning⟩

def Form.group {α : Type} (name : String) (commands : List (Form α)) : Form α :=
  ⟨name, [], [], false, commands, fun _ => none⟩

/-! ## Single arguments -/

/-- Why reading ends early. -/
inductive Stop where
  | misuse
  /-- The version of a command is asked for; the names of the commands lead to it. -/
  | version (commands : List String)
  | help
deriving DecidableEq, Repr

inductive Token where
  /-- Two dashes: only operands follow. -/
  | dashes
  /-- A switch by its name, and a value after an equals sign. -/
  | long (name : String) (value : Option String)
  | short (letters : List Char)
  | word (text : String)
deriving DecidableEq, Repr

def Token.ofText (s : String) : Token :=
  match s.toList with
  | ['-', '-'] => .dashes
  | '-' :: '-' :: r =>
    match Text.splitOnce? (· == '=') r with
    | some (name, value) => .long (.ofList name) (some (.ofList value))
    | none => .long (.ofList r) none
  | '-' :: c :: r => .short (c :: r)
  | _ => .word s

/-! ## Reading -/

def Level.has (l : Level) (name : String) : Bool := l.switches.any fun (n, _) => n == name

def Level.addSwitch (l : Level) (path : List String) (s : Switch) (value : String) :
    Except Stop Level :=
  let added := { l with switches := l.switches ++ [(s.name, value)] }
  match s.takes with
  | .nothing => if l.has s.name then .error .misuse else .ok added
  | .count => .ok added
  | .value accepts => if l.has s.name || !accepts value then .error .misuse else .ok added
  | .values accepts => if accepts value then .ok added else .error .misuse
  | .version => .error (.version path)
  | .help => .error .help

def Level.addOperand {α : Type} (l : Level) (c : Form α) (value : String) : Except Stop Level :=
  let added := { l with operands := l.operands ++ [value] }
  match c.operands[l.operands.length]? with
  | some accepts => if accepts value then .ok added else .error .misuse
  | none => if c.more then .ok added else .error .misuse

def Level.finish {α : Type} (l : Level) (c : Form α) : Except Stop (List Level × α) :=
  if c.commands.isEmpty && c.operands.length ≤ l.operands.length then
    match c.meaning l with
    | some a => .ok ([l], a)
    | none => .error .misuse
  else .error .misuse

/-- Puts switches down by their letters; a last one that still needs its value is given
back. -/
def addLetters (switches : List Switch) (path : List String) (l : Level) :
    List Char → Except Stop (Level × Option Switch)
  | [] => .ok (l, none)
  | c :: r =>
    match switches.find? fun s => s.letter == some c with
    | none => .error .misuse
    | some s =>
      if s.takes.wantsValue then
        match r with
        | [] => .ok (l, some s)
        | '=' :: value => (l.addSwitch path s (.ofList value)).map (·, none)
        | value => (l.addSwitch path s (.ofList value)).map (·, none)
      else
        match l.addSwitch path s "" with
        | .error stop => .error stop
        | .ok l => addLetters switches path l r

/-- Puts a switch down by its name; one that still needs its value is given back. -/
def addName (switches : List Switch) (path : List String) (l : Level) (name : String)
    (value : Option String) : Except Stop (Level × Option Switch) :=
  match switches.find? fun s => s.name == name with
  | none => .error .misuse
  | some s =>
    match s.takes.wantsValue, value with
    | true, none => .ok (l, some s)
    | true, some v => (l.addSwitch path s v).map (·, none)
    | false, none => (l.addSwitch path s "").map (·, none)
    | false, some _ => .error .misuse

def leads {α : Type} : List (Form α) → List String → Bool
  | _, [] => true
  | commands, name :: r =>
    match commands.find? fun c => c.name == name with
    | some c => leads c.commands r
    | none => false

mutual

/-- Reads the arguments of a command; the `common` switches may stand at every level. -/
def readLevel {α : Type} (common : List Switch) (path : List String) (c : Form α) (l : Level) :
    List String → Except Stop (List Level × α)
  | [] => l.finish c
  | arg :: rest =>
    match Token.ofText arg with
    | .dashes =>
      match rest.foldlM (fun l v => l.addOperand c v) l with
      | .error stop => .error stop
      | .ok l => l.finish c
    | .long name value =>
      match addName (c.switches ++ common) path l name value with
      | .error stop => .error stop
      | .ok (l, none) => readLevel common path c l rest
      | .ok (l, some s) => readValue common path c l s rest
    | .short letters =>
      match addLetters (c.switches ++ common) path l letters with
      | .error stop => .error stop
      | .ok (l, none) => readLevel common path c l rest
      | .ok (l, some s) => readValue common path c l s rest
    | .word text =>
      if c.commands.isEmpty then
        match l.addOperand c text with
        | .error stop => .error stop
        | .ok l => readLevel common path c l rest
      else if text == "help" then .error (if leads c.commands rest then .help else .misuse)
      else
        match c.commands.find? fun below => below.name == text with
        | none => .error .misuse
        | some below =>
          (readLevel common (path ++ [text]) below ⟨text, [], []⟩ rest).map
            fun (levels, a) => (l :: levels, a)

def readValue {α : Type} (common : List Switch) (path : List String) (c : Form α) (l : Level)
    (s : Switch) : List String → Except Stop (List Level × α)
  | [] => .error .misuse
  | arg :: rest =>
    match Token.ofText arg with
    | .word value =>
      match l.addSwitch path s value with
      | .error stop => .error stop
      | .ok l => readLevel common path c l rest
    | _ => .error .misuse

end

def read {α : Type} (common : List Switch) (program : Form α) (args : List String) :
    Except Stop (List Level × α) :=
  if args.isEmpty && !program.commands.isEmpty then .error .misuse
  else readLevel common [program.name] program ⟨program.name, [], []⟩ args

/-! ## Looking up -/

/-- The value of a switch at a level; of several the first. -/
def Level.value? (l : Level) (name : String) : Option String :=
  (l.switches.find? fun (n, _) => n == name).map (·.2)

def Level.reading? {α : Type} (l : Level) (name : String) (read : String → Option α) : Option α :=
  (l.value? name).bind read

def Level.values (l : Level) (name : String) : List String :=
  (l.switches.filter fun (n, _) => n == name).map (·.2)

/-- The value of a switch in the innermost level where it stands. -/
def value? (levels : List Level) (name : String) : Option String :=
  levels.reverse.findSome? fun l => l.value? name

end CloudClient.Arguments
