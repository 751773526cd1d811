import CloudClient.Url.Form
import CloudClient.Url.Host

/-!
# Url — absolute addresses

Reads an address the way browsers do and keeps it in its normal form: scheme and
domain in lower case, default ports left out, dot segments resolved, characters
that do not belong into a part in percent encoding.

* `Url.parse` reads an absolute address.
* `Url.text` writes it.
* `Url.append` adds names and values to the query.
-/

namespace CloudClient

structure Url.Authority where
  /-- The user name in percent encoding. -/
  user : String
  password : String
  host : String
  /-- The port, unless it is the scheme's own. -/
  port : Option Nat
deriving DecidableEq, Repr

structure Url where
  /-- The scheme in lower case. -/
  scheme : String
  authority : Option Url.Authority
  path : String
  query : Option String
  fragment : Option String
deriving DecidableEq, Repr

namespace Url

/-! ## Schemes -/

def defaultPort? : String → Option Nat
  | "http" | "ws" => some 80
  | "https" | "wss" => some 443
  | "ftp" => some 21
  | _ => none

/-- Whether a scheme has a host and a path whose meaning is fixed. -/
def isSpecial (scheme : String) : Bool := scheme == "file" || (defaultPort? scheme).isSome

def isSchemeChar (c : Char) : Bool :=
  c.isAlphanum || c == '+' || c == '-' || c == '.'

/-- The scheme of an address in lower case, and what follows its colon. -/
def takeScheme? (cs : List Char) : Option (String × List Char) :=
  match cs with
  | [] => none
  | first :: _ =>
    let name := cs.takeWhile isSchemeChar
    match first.isAlpha, cs.dropWhile isSchemeChar with
    | true, ':' :: rest => some (.ofList (name.map Char.toLower), rest)
    | _, _ => none

/-! ## Authority -/

def isSlash (special : Bool) (c : Char) : Bool := c == '/' || (special && c == '\\')

/-- The parts before and after the last `@`. -/
def splitUser (cs : List Char) : Option (List Char × List Char) :=
  if cs.contains '@' then
    let host := (cs.reverse.takeWhile (· != '@')).reverse
    some (cs.take (cs.length - host.length - 1), host)
  else none

/-- The length of the host in front of a port: a colon in brackets belongs to it. -/
def hostLength (inBrackets : Bool) : List Char → Nat
  | [] => 0
  | c :: r =>
    if c == ':' && !inBrackets then 0
    else 1 + hostLength (if c == '[' then true else if c == ']' then false else inBrackets) r

/-- The port after a host; the scheme's own port counts as none. -/
def port (scheme : String) : List Char → Except Fault (Option Nat)
  | [] | [':'] => .ok none
  | ':' :: ds =>
    match Text.natural? ds with
    | some n =>
      if 65535 < n then .error .invalidPort
      else .ok (if defaultPort? scheme == some n then none else some n)
    | none => .error .invalidPort
  | _ => .error .invalidPort

def authorityOf (scheme : String) (cs : List Char) : Except Fault Authority := do
  let special := isSpecial scheme
  let (login, rest) := (splitUser cs).getD ([], cs)
  let (user, password) := (Text.splitOnce? (· == ':') login).getD (login, [])
  let host := rest.take (hostLength false rest)
  let tail := rest.drop (hostLength false rest)
  if host.isEmpty && (special || !tail.isEmpty || cs.contains '@') then throw .emptyHost
  let host ← if special then domainHost host else opaqueHost host
  let port ← port scheme tail
  return ⟨.ofList (percentEncode userSet user), .ofList (percentEncode userSet password), host,
    port⟩

/-! ## Path -/

/-- A segment that stands for the place it is in. -/
def isDot (segment : String) : Bool :=
  [".", "%2e"].contains (Text.asciiLower segment)

/-- A segment that stands for the place above. -/
def isDoubleDot (segment : String) : Bool :=
  ["..", ".%2e", "%2e.", "%2e%2e"].contains (Text.asciiLower segment)

/-- The segments of a place above; `segments` come last first.  Some segments have no
place above them. -/
def above (isTop : String → Bool) (segments : List String) : List String :=
  if segments.head?.any isTop then segments else segments.tail

/-- Resolves dot segments; `done` holds the segments before, last first. -/
def resolveDots (isTop : String → Bool) (done : List String) : List String → List String
  | [] => done.reverse
  | [last] =>
    if isDoubleDot last then ("" :: above isTop done).reverse
    else if isDot last then ("" :: done).reverse
    else (last :: done).reverse
  | segment :: rest =>
    if isDoubleDot segment then resolveDots isTop (above isTop done) rest
    else if isDot segment then resolveDots isTop done rest
    else resolveDots isTop (segment :: done) rest

/-- The segments of a path; a slash at its start is no segment of its own. -/
def segmentsOf (special : Bool) (cs : List Char) : List String :=
  let body :=
    match cs with
    | [] => []
    | c :: r => if isSlash special c then r else c :: r
  (Text.splitAll (isSlash special) body).map fun s => .ofList (percentEncode pathSet s)

/-- The path of the text after an authority or a scheme; it starts with a slash. -/
def pathText (special : Bool) (cs : List Char) : String :=
  "/" ++ Text.join "/" (resolveDots (fun _ => false) [] (segmentsOf special cs))

/-! ## Paths of files -/

/-- Whether a text names a drive: a letter and a colon, or a bar for it. -/
def isDrive : List Char → Bool
  | [letter, mark] => letter.isAlpha && (mark == ':' || mark == '|')
  | _ => false

/-- A drive with its colon; other segments are as they are. -/
def driveText (segment : String) : String :=
  if isDrive segment.toList then .ofList (segment.toList.take 1 ++ [':']) else segment

/-- The path of a file.  Nothing is above a drive, and empty segments at the start are
left out. -/
def filePath (segments : List String) : String :=
  let segments :=
    match segments with
    | [] => []
    | first :: rest => driveText first :: rest
  let isTop (s : String) : Bool := isDrive s.toList && s.toList.contains ':'
  let path := Text.join "/" (resolveDots isTop [] segments)
  .ofList ('/' :: path.toList.dropWhile (· == '/'))

/-! ## Reading and writing -/

/-- The text without blanks and control characters around it and without tabs and
line ends. -/
def cleaned (cs : List Char) : List Char :=
  let isOuter := fun (c : Char) => c.toNat ≤ 0x20
  let core := ((cs.dropWhile isOuter).reverse.dropWhile isOuter).reverse
  core.filter fun c => !(c == '\t' || c == '\n' || c == '\r')

/-- The text before a character, and what follows it if it is there. -/
def cut (x : Char) (cs : List Char) : List Char × Option (List Char) :=
  match Text.splitOnce? (· == x) cs with
  | some (a, b) => (a, some b)
  | none => (cs, none)

def hostPlace (scheme : String) (cs : List Char) :
    Except Fault (Option Authority × String) := do
  let special := isSpecial scheme
  let path := cs.dropWhile fun c => !isSlash special c
  let authority ← authorityOf scheme (cs.takeWhile fun c => !isSlash special c)
  return (some authority, if !special && path.isEmpty then "" else pathText special path)

/-- Authority and path of a file: a host may stand behind two slashes, and a drive has
none.  The machine itself is no host. -/
def filePlace (cs : List Char) : Except Fault (Option Authority × String) := do
  let (host, path) :=
    match cs with
    | a :: b :: rest =>
      let host := rest.takeWhile fun c => !isSlash true c
      if !isSlash true a || !isSlash true b then ([], cs)
      else if isDrive host then ([], rest)
      else (host, rest.drop host.length)
    | _ => ([], cs)
  let segments := segmentsOf true path
  let host ← if host.isEmpty then pure "" else domainHost host
  let hasDrive := segments.head?.any (isDrive ·.toList)
  return (some ⟨"", "", if hasDrive || host == "localhost" then "" else host, none⟩,
    filePath segments)

def place (scheme : String) (cs : List Char) : Except Fault (Option Authority × String) :=
  if scheme == "file" then filePlace cs
  else if isSpecial scheme then hostPlace scheme (cs.dropWhile (isSlash true))
  else
    match cs with
    | '/' :: '/' :: rest => hostPlace scheme rest
    | '/' :: _ => .ok (none, pathText false cs)
    | _ => .ok (none, .ofList (percentEncode controlSet cs))

def parse (s : String) : Except Fault Url :=
  match takeScheme? (cleaned s.toList) with
  | none => .error .relative
  | some (scheme, rest) => do
    let (rest, fragment) := cut '#' rest
    let (rest, query) := cut '?' rest
    let (authority, path) ← place scheme rest
    let encoded (set : Char → Bool) (part : Option (List Char)) : Option String :=
      part.map fun cs => .ofList (percentEncode set cs)
    return ⟨scheme, authority, path, encoded (querySet (isSpecial scheme)) query,
      encoded fragmentSet fragment⟩

def Authority.text (a : Authority) : String :=
  let password := if a.password.isEmpty then "" else ":" ++ a.password
  let login := a.user ++ password
  let port :=
    match a.port with
    | some n => ":" ++ Text.ofNat n
    | none => ""
  (if login.isEmpty then "" else login ++ "@") ++ a.host ++ port

def text (u : Url) : String :=
  let place :=
    match u.authority with
    | some a => "//" ++ a.text ++ u.path
    | none => if Text.startsWith u.path "//" then "/." ++ u.path else u.path
  let part (mark : String) : Option String → String
    | some s => mark ++ s
    | none => ""
  u.scheme ++ ":" ++ place ++ part "?" u.query ++ part "#" u.fragment

/-- Adds names and values to the query; a query that stays empty is left out. -/
def append (u : Url) (pairs : List (String × String)) : Url :=
  let old := u.query.getD ""
  let added := Form.encode pairs
  let query := old ++ (if old.isEmpty || added.isEmpty then "" else "&") ++ added
  { u with query := if query.isEmpty then none else some query }

end Url

end CloudClient
