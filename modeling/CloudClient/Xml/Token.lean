import CloudClient.Text.Search
import CloudClient.Xml.Name

/-!
# Tokens of XML

The pieces that a document is made of: tags, text and the parts that carry no
data.  Text is kept as it is written; what its references mean is decided when
the tree is built.
-/

namespace CloudClient.Xml

structure Attribute where
  name : QName
  /-- The text between the quotes. -/
  written : List Char
deriving DecidableEq, Repr

/-- A piece of a document. -/
inductive Token where
  /-- A start tag; an empty element closes itself. -/
  | start (name : QName) (attributes : List Attribute) (closed : Bool)
  | finish (name : QName)
  /-- Text between tags, as written. -/
  | text (written : List Char)
  /-- Text in which markup has no meaning. -/
  | verbatim (written : List Char)
  | comment
  | instruction
deriving DecidableEq, Repr

namespace Token

/-- The text before the first occurrence of a mark, and what follows the mark. -/
def until? (mark : List Char) : List Char → Option (List Char × List Char)
  | [] => if mark.isEmpty then some ([], []) else none
  | c :: r =>
    match Text.dropHead? mark (c :: r) with
    | some rest => some ([], rest)
    | none => (until? mark r).map fun (a, b) => (c :: a, b)

def skipSpaces (cs : List Char) : List Char := cs.dropWhile isSpace

/-- Takes a character that has to be there. -/
def skipChar? (x : Char) (cs : List Char) : Option (List Char) := Text.dropHead? [x] cs

def attribute? (cs : List Char) : Option (Attribute × List Char) := do
  let (name, rest) ← takeQName? cs
  let rest ← skipChar? '=' (skipSpaces rest)
  match skipSpaces rest with
  | [] => none
  | quote :: r =>
    if quote != '"' && quote != '\'' then none
    else do
      let stop := fun c => c == quote || c == '<'
      let value := r.takeWhile fun c => !stop c
      let rest ← skipChar? quote (r.dropWhile fun c => !stop c)
      if value.all isChar then some (⟨name, value⟩, rest) else none

/-- Takes the attributes and the end of a start tag off the text. -/
def attributes? (cs : List Char) : Option (List Attribute × Bool × List Char) :=
  match skipSpaces cs with
  | '/' :: '>' :: r => some ([], true, r)
  | '>' :: r => some ([], false, r)
  | body =>
    if body.length = cs.length then none
    else
      match attribute? body with
      | none => none
      | some (a, rest) =>
        if _ : rest.length < cs.length then
          (attributes? rest).map fun (more, closed, r) => (a :: more, closed, r)
        else none
termination_by cs.length

/-- Takes a start tag, from after its `<`, off the text. -/
def start? (cs : List Char) : Option (Token × List Char) := do
  let (name, rest) ← takeQName? cs
  let (attributes, closed, rest) ← attributes? rest
  return (.start name attributes closed, rest)

/-- Takes an end tag, from after its `</`, off the text. -/
def finish? (cs : List Char) : Option (Token × List Char) := do
  let (name, rest) ← takeQName? cs
  let rest ← skipChar? '>' (skipSpaces rest)
  return (.finish name, rest)

/-- Takes a comment, from after its `<!--`, off the text. -/
def comment? (cs : List Char) : Option (Token × List Char) := do
  let (body, rest) ← until? "-->".toList cs
  if body.all isChar && !Text.occurs "--".toList body && body.getLast? != some '-' then
    some (.comment, rest)
  else none

/-- Takes verbatim text, from after its `<![CDATA[`, off the text. -/
def verbatim? (cs : List Char) : Option (Token × List Char) := do
  let (body, rest) ← until? "]]>".toList cs
  if body.all isChar then some (.verbatim body, rest) else none

/-- Takes a processing instruction, from after its `<?`, off the text. -/
def instruction? (cs : List Char) : Option (Token × List Char) := do
  if (Text.dropHead? "xml ".toList cs).isSome then none
  else
    let name := cs.takeWhile isNameChar
    if name.isEmpty || !startsAsName name then none
    else do
      let (body, rest) ← until? "?>".toList (skipSpaces (cs.dropWhile isNameChar))
      if body.all isChar then some (.instruction, rest) else none

def text? (cs : List Char) : Option (Token × List Char) :=
  let body := cs.takeWhile (· != '<')
  if body.all isChar && !Text.occurs "]]>".toList body then
    some (.text body, cs.dropWhile (· != '<'))
  else none

def next? (cs : List Char) : Option (Token × List Char) :=
  match Text.dropHead? "<!--".toList cs with
  | some r => comment? r
  | none =>
    match Text.dropHead? "<![CDATA[".toList cs with
    | some r => verbatim? r
    | none =>
      match cs with
      | '<' :: '?' :: r => instruction? r
      | '<' :: '/' :: r => finish? r
      | '<' :: r => start? r
      | _ => text? cs

def scan? (cs : List Char) : Option (List Token) :=
  if cs.isEmpty then some []
  else
    match next? cs with
    | none => none
    | some (token, rest) =>
      if _ : rest.length < cs.length then (scan? rest).map (token :: ·) else none
termination_by cs.length

end Token

end CloudClient.Xml
