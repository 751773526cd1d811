import CloudClient.Settings.Yaml.Block
import CloudClient.Settings.Yaml.Flow
import CloudClient.Settings.Yaml.Tag

/-!
# Tokens of documents

A document is a list of tokens.  Indentation shows in them: a collection without
brackets has a token at its start and one at its end.  Whether a scalar is a key is
known only at the colon behind it, so the token that marks a key is put in front of
the scalar later.  A key stands on one line and has at most 1024 characters.

* `Token.scan?` gives the tokens of a text.
-/

namespace CloudClient.Settings.Yaml

inductive Token where
  | version (major minor : Nat)
  /-- What a handle of tags stands for. -/
  | meaning (m : Tag.Meaning)
  | documentStart
  | documentEnd
  | listStart
  | tableStart
  /-- The list or table with the deepest indentation ends here. -/
  | blockEnd
  | flowListStart
  | flowListEnd
  | flowTableStart
  | flowTableEnd
  | item
  | comma
  | key
  | value
  | alias (name : List Char)
  | anchor (name : List Char)
  | tag (t : Tag)
  | scalar (plain : Bool) (text : List Char)
deriving DecidableEq, Repr

structure KeyStart where
  /-- Whether nothing but a key can stand there. -/
  required : Bool
  /-- How many tokens come before. -/
  number : Nat
  index : Nat
  line : Nat
  column : Nat

/-- Whether a key that started there would have ended before a place. -/
def KeyStart.isOver (k : KeyStart) (c : Cursor) : Bool :=
  k.line < c.line || k.index + 1024 < c.index

/-- A text that is partly read. -/
structure Scan where
  cursor : Cursor
  /-- The tokens found, the latest first. -/
  tokens : List Token
  /-- The columns of the open collections without brackets, the innermost first. -/
  indents : List Nat
  /-- Whether a key may start at the next token. -/
  keyAllowed : Bool
  /-- Where a key may have started, within the innermost brackets. -/
  start : Option KeyStart
  /-- The same for the brackets around them, the innermost first. -/
  outer : List (Option KeyStart)

namespace Scan

def ofText (cs : List Char) : Scan := ⟨.ofText cs, [], [], true, none, []⟩

def inFlow (s : Scan) : Bool := !s.outer.isEmpty

/-- The column right of the innermost collection without brackets. -/
def least (s : Scan) : Nat :=
  match s.indents with
  | [] => 0
  | i :: _ => i + 1

def emit (t : Token) (s : Scan) : Scan := { s with tokens := t :: s.tokens }

/-- Adds a token and goes on after it. -/
def emitTo (t : Token) (c : Cursor) (s : Scan) : Scan := { s.emit t with cursor := c }

def take (n : Nat) (t : Token) (s : Scan) : Scan := s.emitTo t (s.cursor.skip n)

/-- Puts a token where `number` tokens come before it. -/
def insert (number : Nat) (t : Token) (s : Scan) : Scan :=
  let behind := s.tokens.length - number
  { s with tokens := s.tokens.take behind ++ t :: s.tokens.drop behind }

/-! ## Indentation -/

/-- Opens a collection at a column unless one is open there; `number` tokens come
before it. -/
def openAt (column number : Nat) (t : Token) (s : Scan) : Scan :=
  if s.inFlow || column < s.least then s
  else { s.insert number t with indents := column :: s.indents }

/-- Closes the collections whose columns satisfy `p`. -/
def close (p : Nat → Bool) (s : Scan) : Scan :=
  if s.inFlow then s
  else
    let closed := (s.indents.takeWhile p).length
    { s with
      tokens := List.replicate closed .blockEnd ++ s.tokens
      indents := s.indents.drop closed }

/-! ## Keys -/

/-- Forgets where a key may have started; it may not if there has to be one. -/
def forget? (s : Scan) : Option Scan :=
  if s.start.any (·.required) then none else some { s with start := none }

/-- Forgets the keys that would be over; none of them may be required. -/
def expire? (s : Scan) : Option Scan :=
  let isOver := fun k : KeyStart => k.isOver s.cursor
  if (s.start :: s.outer).any fun k => k.any fun k => isOver k && k.required then none
  else
    some { s with
      start := s.start.filter (!isOver ·)
      outer := s.outer.map fun k => k.filter (!isOver ·) }

def note? (s : Scan) : Option Scan :=
  if !s.keyAllowed then some s
  else do
    let s ← s.forget?
    let c := s.cursor
    let required := !s.inFlow && s.indents.head? == some c.column
    return { s with start := some ⟨required, s.tokens.length, c.index, c.line, c.column⟩ }

/-! ## Between tokens -/

/-- Goes on over blanks, comments and line breaks.  Tabs are blanks within brackets and
where no key may start; a line break allows one outside brackets. -/
def skipBlanks (inFlow keyAllowed : Bool) (c : Cursor) : Bool × Cursor :=
  let d := if c.index = 0 && c.isAt '\uFEFF' then c.skip 1 else c
  let d := d.skipWhile fun x => x == ' ' || ((inFlow || !keyAllowed) && x == '\t')
  let d := if d.isAt '#' then d.skipWhile (!isBreak ·) else d
  match d.break? with
  | none => (keyAllowed, d)
  | some (_, e) =>
    if _ : e.rest.length < c.rest.length then skipBlanks inFlow (keyAllowed || !inFlow) e
    else (keyAllowed, e)
termination_by c.rest.length

/-- Goes on to the next token and closes the collections that end before it. -/
def approach? (s : Scan) : Option Scan := do
  let (keyAllowed, c) := skipBlanks s.inFlow s.keyAllowed s.cursor
  let s ← { s with keyAllowed, cursor := c }.expire?
  return s.close (· > c.column)

/-! ## Single tokens -/

def openFlow? (t : Token) (s : Scan) : Option Scan := do
  let s ← s.note?
  return { s.take 1 t with outer := s.start :: s.outer, start := none, keyAllowed := true }

def closeFlow? (t : Token) (s : Scan) : Option Scan := do
  let s ← s.forget?
  let s :=
    match s.outer with
    | [] => s
    | k :: outer => { s with start := k, outer }
  return { s.take 1 t with keyAllowed := false }

def comma? (s : Scan) : Option Scan := do
  let s ← s.forget?
  return { s.take 1 .comma with keyAllowed := true }

def item? (s : Scan) : Option Scan := do
  if !s.inFlow && !s.keyAllowed then none
  else
    let s ← (s.openAt s.cursor.column s.tokens.length .listStart).forget?
    return { s.take 1 .item with keyAllowed := true }

def key? (s : Scan) : Option Scan := do
  if !s.inFlow && !s.keyAllowed then none
  else
    let s ← (s.openAt s.cursor.column s.tokens.length .tableStart).forget?
    return { s.take 1 .key with keyAllowed := !s.inFlow }

/-- The mark of a value, which makes a key of what came before it. -/
def value? (s : Scan) : Option Scan :=
  match s.start with
  | some k =>
    let s := (s.insert k.number .key).openAt k.column k.number .tableStart
    some { s.take 1 .value with start := none, keyAllowed := false }
  | none =>
    if !s.inFlow && !s.keyAllowed then none
    else
      let s := s.openAt s.cursor.column s.tokens.length .tableStart
      some { s.take 1 .value with keyAllowed := !s.inFlow }

def endsAnchor (cs : List Char) : Bool :=
  endsWord cs || cs.head?.any fun c => "?:,]%@".toList.contains c || c == '\x7d' || c == '\x60'

def named? (token : List Char → Token) (s : Scan) : Option Scan := do
  let s ← s.note?
  let (name, d) := (s.cursor.skip 1).span isNameChar
  if name.isEmpty || !endsAnchor d.rest then none
  else return { s.emitTo (token name) d with keyAllowed := false }

def tag? (s : Scan) : Option Scan := do
  let s ← s.note?
  let (tag, d) ← Tag.read? s.inFlow s.cursor
  return { s.emitTo (.tag tag) d with keyAllowed := false }

def block? (folded : Bool) (s : Scan) : Option Scan := do
  let s ← s.forget?
  let (text, d) ← Block.read? folded s.least (s.cursor.skip 1)
  return { s.emitTo (.scalar false text) d with keyAllowed := true }

def quoted? (quote : Char) (s : Scan) : Option Scan := do
  let s ← s.note?
  let (text, d) ← Quoted.read? quote (s.cursor.skip 1)
  return { s.emitTo (.scalar false text) d with keyAllowed := false }

def plain? (s : Scan) : Option Scan := do
  let s ← s.note?
  let p ← Plain.read? s.inFlow s.least s.cursor
  return { s.emitTo (.scalar true p.text) p.after with keyAllowed := p.isBroken }

def boundary? (t : Token) (s : Scan) : Option Scan := do
  let s ← (s.close fun _ => true).forget?
  return { s.take 3 t with keyAllowed := false }

def versionNumber? (cs : List Char) : Option (Nat × List Char) :=
  let digits := cs.takeWhile Char.isDigit
  if digits.length ≤ 9 then
    (Text.natural? digits).map fun n => (n, cs.drop digits.length)
  else none

/-- Reads a version, from after the name of its directive. -/
def version? (cs : List Char) : Option (Token × List Char) := do
  let (major, rest) ← versionNumber? (cs.dropWhile isSpace)
  match rest with
  | '.' :: rest =>
    let (minor, rest) ← versionNumber? rest
    return (.version major minor, rest)
  | _ => none

def directive? (s : Scan) : Option Scan := do
  let s ← (s.close fun _ => true).forget?
  let (name, d) := (s.cursor.skip 1).span isNameChar
  if !endsWord d.rest then none
  else
    let (token, rest) ←
      match String.ofList name with
      | "YAML" => version? d.rest
      | "TAG" => (Tag.meaning? d.rest).map fun (m, rest) => (Token.meaning m, rest)
      | _ => none
    let e ← (d.moveTo rest).nextLine?
    return { s.emitTo token e with keyAllowed := false }

/-- Whether no plain scalar starts with a character of its own. -/
def isIndicator (c : Char) : Bool :=
  Plain.isFlowMark c || "-?:#&*!|>%@".toList.contains c || c == '\'' || c == '"' || c == '\x60'

def next? (s : Scan) : Option Scan :=
  let column := s.cursor.column
  match s.cursor.rest with
  | [] => none
  | c :: r =>
    let marks := endsWord r
    if column = 0 && c == '%' then s.directive?
    else if s.cursor.isBoundaryOf '-' then s.boundary? .documentStart
    else if s.cursor.isBoundaryOf '.' then s.boundary? .documentEnd
    else if c == '[' then s.openFlow? .flowListStart
    else if c == '\x7b' then s.openFlow? .flowTableStart
    else if c == ']' then s.closeFlow? .flowListEnd
    else if c == '\x7d' then s.closeFlow? .flowTableEnd
    else if c == ',' then s.comma?
    else if c == '-' && marks then s.item?
    else if c == '?' && (s.inFlow || marks) then s.key?
    else if c == ':' && (s.inFlow || marks) then s.value?
    else if c == '*' then s.named? .alias
    else if c == '&' then s.named? .anchor
    else if c == '!' then s.tag?
    else if c == '|' && !s.inFlow then s.block? false
    else if c == '>' && !s.inFlow then s.block? true
    else if c == '\'' || c == '"' then s.quoted? c
    else if (!isIndicator c && !endsWord (c :: r)) || (c == '-' && !r.head?.any isSpace) ||
        (!s.inFlow && (c == '?' || c == ':') && !marks) then s.plain?
    else none

def finish? (s : Scan) : Option (List Token) :=
  ((s.close fun _ => true).forget?).map fun s => s.tokens.reverse

/-- The tokens of the rest of a text, after those found. -/
def tokens? (s : Scan) : Option (List Token) :=
  match s.approach? with
  | none => none
  | some near =>
    if near.cursor.rest.isEmpty then near.finish?
    else
      match near.next? with
      | none => none
      | some after =>
        if _ : after.cursor.rest.length < s.cursor.rest.length then tokens? after else none
termination_by s.cursor.rest.length

end Scan

def Token.scan? (cs : List Char) : Option (List Token) :=
  if cs.all isAllowed then (Scan.ofText cs).tokens? else none

end CloudClient.Settings.Yaml
