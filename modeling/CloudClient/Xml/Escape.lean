import CloudClient.Text.Integer
import CloudClient.Text.Search
import CloudClient.Xml.Name

/-!
# Text in XML documents

`escape` writes the five characters that markup is made of as references.
`unescape?` undoes references and reads written line ends as `\n`; a reference to a
character keeps what it names.
-/

namespace CloudClient.Xml

/-! ## Writing -/

def escapeChar : Char → List Char
  | '<' => "&lt;".toList
  | '>' => "&gt;".toList
  | '&' => "&amp;".toList
  | '\'' => "&apos;".toList
  | '"' => "&quot;".toList
  | c => [c]

def escape (cs : List Char) : List Char := cs.flatMap escapeChar

/-! ## Reading -/

/-- The largest number that a reference may be written with. -/
def maxReference : Nat := 4294967295

/-- The character with a number; U+FFFD where there is none. -/
def charOfNumber (n : Nat) : Char :=
  if n.isValidChar then Char.ofNat n else '\uFFFD'

/-- The character that a reference names, from the text between `&` and `;`. -/
def reference? (cs : List Char) : Option Char :=
  let numbered (n : Option Nat) : Option Char :=
    ((n.filter (· ≤ maxReference)).map charOfNumber).filter isChar
  match cs with
  | '#' :: 'x' :: ds => numbered (Text.inBase? 16 ds)
  | '#' :: ds => numbered (Text.inBase? 10 ds)
  | _ =>
    match String.ofList cs with
    | "lt" => some '<'
    | "gt" => some '>'
    | "amp" => some '&'
    | "apos" => some '\''
    | "quot" => some '"'
    | _ => none

/-- Reads written text; none if a `&` starts no reference.  A `\r` with a reference
behind it is no line end, nor is one between a reference and the end of the text;
`behind` tells whether the text follows a reference. -/
def unescapeFrom? (behind : Bool) : List Char → Option (List Char)
  | [] => some []
  | '&' :: r =>
    match _h : Text.splitOnce? (· == ';') r with
    | none => none
    | some (body, rest) => do
      let c ← reference? body
      let cs ← unescapeFrom? true rest
      return c :: cs
  | '\r' :: '\n' :: r => (unescapeFrom? false r).map ('\n' :: ·)
  | ['\r'] => some [if behind then '\r' else '\n']
  | '\r' :: '&' :: r => (unescapeFrom? false ('&' :: r)).map ('\r' :: ·)
  | '\r' :: r => (unescapeFrom? false r).map ('\n' :: ·)
  | c :: r => (unescapeFrom? false r).map (c :: ·)
termination_by cs => cs.length
decreasing_by
  · have := Text.length_splitOnce ‹_›
    simp only [List.length_cons]
    omega
  all_goals
    simp only [List.length_cons]
    omega

/-- Reads written text; none if a `&` starts no reference. -/
def unescape? (cs : List Char) : Option (List Char) := unescapeFrom? false cs

/-- Reads text in which references have no meaning. -/
def normalLines : List Char → List Char
  | [] => []
  | '\r' :: '\n' :: r => '\n' :: normalLines r
  | '\r' :: r => '\n' :: normalLines r
  | c :: r => c :: normalLines r

end CloudClient.Xml
