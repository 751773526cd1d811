import CloudClient.Binary64
import CloudClient.Decimal.Reader
import CloudClient.Text.Blank
import CloudClient.Text.Integer

/-!
# Values of settings, and of environment variables

What a source of settings says under one name is a value, before the setting itself decides
whether it can use it.  The text of an environment variable is read as a truth value, a
number, a text or a character in quotes, a list in brackets or a table in braces.  A text that
is none of these stands for itself.
-/

namespace CloudClient.Settings

inductive Value where
  | null
  | flag (b : Bool)
  | integer (i : Int)
  | double (x : Binary64)
  /-- A single character, written as one. -/
  | letter (c : Char)
  | text (s : String)
  | list (items : List Value)
  | table (entries : List (String × Value))
deriving Repr, Inhabited

namespace Variable

def isSpace (c : Char) : Bool :=
  c == ' ' || c == '\t' || c == '\n' || c == '\x0c' || c == '\r'

def isSeparator (c : Char) : Bool :=
  c == ',' || c == '{' || c == '}' || c == '[' || c == ']'

def isKeyChar (c : Char) : Bool :=
  c.isAlphanum || c == '_' || c == '-'

def skipSpaces (cs : List Char) : List Char := cs.dropWhile isSpace

/-! ## Bare words and text in quotes -/

def ofWord (word : String) : Value :=
  let number : Option Value :=
    if word.toList.contains '.' then (Decimal.double? word).map .double else none
  match number with
  | some v => v
  | none =>
    match Text.u64? word with
    | some n => .integer n
    | none =>
      match Text.i64? word with
      | some i => .integer i
      | none => .text word

/-- The character written by a number of hexadecimal digits, and what follows. -/
def codePoint? (digits : Nat) (cs : List Char) : Option (Char × List Char) := do
  let written := cs.take digits
  if written.length != digits then none
  else
    let n ← Text.inBase? 16 written
    if n.isValidChar then some (Char.ofNat n, cs.drop digits) else none

/-- The character that an escape stands for, from after its backslash. -/
def escaped? : List Char → Option (Char × List Char)
  | 'b' :: r => some ('\x08', r)
  | '"' :: r => some ('"', r)
  | 'n' :: r => some ('\n', r)
  | 'r' :: r => some ('\r', r)
  | 't' :: r => some ('\t', r)
  | 'f' :: r => some ('\x0c', r)
  | '\\' :: r => some ('\\', r)
  | 'u' :: r => codePoint? 4 r
  | 'U' :: r => codePoint? 8 r
  | _ => none

/-- The text up to the closing quote, and what follows the quote. -/
def quoted? (cs : List Char) : Option (List Char × List Char) :=
  match cs with
  | [] => none
  | '"' :: r => some ([], r)
  | '\\' :: r =>
    match escaped? r with
    | none => none
    | some (c, rest) =>
      if _ : rest.length < r.length then
        (quoted? rest).map fun (text, after) => (c :: text, after)
      else none
  | c :: r =>
    if c.toNat < 0x20 && c != '\t' then none
    else (quoted? r).map fun (text, after) => (c :: text, after)
termination_by cs.length

/-! ## Values -/

mutual

/-- Takes a value off the text; `fuel` bounds the nesting. -/
def value? (fuel : Nat) (cs : List Char) : Option (Value × List Char) :=
  match fuel with
  | 0 => none
  | fuel + 1 =>
    let taken : Option (Value × List Char) :=
      match skipSpaces cs with
      | 't' :: 'r' :: 'u' :: 'e' :: r => some (.flag true, r)
      | 'f' :: 'a' :: 'l' :: 's' :: 'e' :: r => some (.flag false, r)
      | '\x7b' :: r => (entries? fuel r).map fun (entries, rest) => (.table entries, rest)
      | '[' :: r => (items? fuel r).map fun (items, rest) => (.list items, rest)
      | '"' :: r => (quoted? r).map fun (text, rest) => (.text (.ofList text), rest)
      | '\'' :: c :: '\'' :: r => some (.letter c, r)
      | '\'' :: _ => none
      | body =>
        let word := body.takeWhile fun c => !isSeparator c
        some (ofWord (.ofList (Text.trim word)), body.dropWhile fun c => !isSeparator c)
    taken.map fun (v, rest) => (v, skipSpaces rest)

/-- Takes the items of a list, from after its opening bracket, off the text. -/
def items? (fuel : Nat) (cs : List Char) : Option (List Value × List Char) :=
  match fuel with
  | 0 => none
  | fuel + 1 =>
    match cs with
    | ']' :: r => some ([], r)
    | _ =>
      match value? fuel cs with
      | some (v, ',' :: r) => (items? fuel r).map fun (vs, rest) => (v :: vs, rest)
      | some (v, ']' :: r) => some ([v], r)
      | _ => none

/-- Takes the entries of a table, from after its opening brace, off the text. -/
def entries? (fuel : Nat) (cs : List Char) : Option (List (String × Value) × List Char) :=
  match fuel with
  | 0 => none
  | fuel + 1 =>
    match cs with
    | '\x7d' :: r => some ([], r)
    | _ =>
      let body := skipSpaces cs
      let key := body.takeWhile isKeyChar
      match key, skipSpaces (body.dropWhile isKeyChar) with
      | _ :: _, '=' :: r =>
        match value? fuel r with
        | some (v, ',' :: r) =>
          (entries? fuel r).map fun (more, rest) => ((.ofList key, v) :: more, rest)
        | some (v, '\x7d' :: r) => some ([(.ofList key, v)], r)
        | _ => none
      | _, _ => none

end

def read (written : String) : Value :=
  let body := Text.trim written.toList
  match value? (2 * body.length + 2) body with
  | some (v, []) => v
  | _ => .text (.ofList body)

end Variable

end CloudClient.Settings
