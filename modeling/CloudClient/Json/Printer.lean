import CloudClient.Decimal.Layout
import CloudClient.Json
import CloudClient.Text.Integer

/-!
# JSON text

Compact text has no blanks.  Pretty text has one element or member a line,
indented by two spaces a level.  Only quotation marks, backslashes and control
characters are escaped.
-/

namespace CloudClient.Json

def hexByte (n : Nat) : List Char :=
  [Nat.digitChar (n / 16), Nat.digitChar (n % 16)]

def escapeChar (c : Char) : List Char :=
  match c with
  | '"' => ['\\', '"']
  | '\\' => ['\\', '\\']
  | '\n' => ['\\', 'n']
  | '\r' => ['\\', 'r']
  | '\t' => ['\\', 't']
  | '\x08' => ['\\', 'b']
  | '\x0c' => ['\\', 'f']
  | c => if c.toNat < 0x20 then '\\' :: 'u' :: '0' :: '0' :: hexByte c.toNat else [c]

def quoted (s : String) : List Char :=
  '"' :: (s.toList.flatMap escapeChar ++ ['"'])

def numberText : Number → String
  | .int i => Text.ofInt i
  | .double x => Decimal.json.text x

/-- The text of a value that holds no other value. -/
def scalarText : Json → List Char
  | .null => "null".toList
  | .bool true => "true".toList
  | .bool false => "false".toList
  | .num n => (numberText n).toList
  | .str s => quoted s
  | .arr _ => []
  | .obj _ => []

mutual

def compactChars : Json → List Char
  | .arr items => '[' :: (compactItems items ++ [']'])
  | .obj members => '{' :: (compactMembers members ++ ['}'])
  | .null => scalarText .null
  | .bool b => scalarText (.bool b)
  | .num n => scalarText (.num n)
  | .str s => scalarText (.str s)

def compactItems : List Json → List Char
  | [] => []
  | v :: r =>
    match r with
    | [] => compactChars v
    | _ :: _ => compactChars v ++ ',' :: compactItems r

def compactMembers : List (String × Json) → List Char
  | [] => []
  | (k, v) :: r =>
    match r with
    | [] => quoted k ++ ':' :: compactChars v
    | _ :: _ => quoted k ++ ':' :: (compactChars v ++ ',' :: compactMembers r)

end

/-- A line end and the blanks of an indentation level. -/
def newline (level : Nat) : List Char :=
  '\n' :: List.replicate (2 * level) ' '

mutual

/-- Text with one element or member a line, at an indentation level. -/
def prettyChars (level : Nat) : Json → List Char
  | .arr [] => ['[', ']']
  | .arr (v :: r) =>
    '[' :: (prettyItems (level + 1) (v :: r) ++ newline level ++ [']'])
  | .obj [] => ['{', '}']
  | .obj ((k, v) :: r) =>
    '{' :: (prettyMembers (level + 1) ((k, v) :: r) ++ newline level ++ ['}'])
  | .null => scalarText .null
  | .bool b => scalarText (.bool b)
  | .num n => scalarText (.num n)
  | .str s => scalarText (.str s)

def prettyItems (level : Nat) : List Json → List Char
  | [] => []
  | v :: r =>
    newline level ++ prettyChars level v ++ (if r.isEmpty then [] else [',']) ++
      prettyItems level r

def prettyMembers (level : Nat) : List (String × Json) → List Char
  | [] => []
  | (k, v) :: r =>
    newline level ++ quoted k ++ [':', ' '] ++ prettyChars level v ++
      (if r.isEmpty then [] else [',']) ++ prettyMembers level r

end

def compact (v : Json) : String := .ofList v.compactChars

def pretty (v : Json) : String := .ofList (v.prettyChars 0)

end CloudClient.Json
