import CloudClient.Decimal.Reader
import CloudClient.Json.Printer
import CloudClient.Text.Base64
import CloudClient.Text.Utf8
import CloudClient.Xml.Node

/-!
# Reading XML-RPC replies

A reply is a document that holds one value or a fault.  A value without a type is
text; `i4` counts as `int`; a date stays text; base64 is read as text where it is
well formed.

* `Reply.read` reads a document.
* `Reader.value` reads one value.
-/

namespace CloudClient.XmlRpc

/-- Why a reply cannot be read. -/
inductive ReadError where
  | notXml
  /-- The document is not a reply; its root has another name. -/
  | unexpectedRoot (name : String)
  | faultWithoutValue
  | faultNotStruct
  | invalidInteger (text : String)
  | invalidBoolean (text : String)
  | invalidDouble (text : String)
  | unsupportedType (name : String)
deriving DecidableEq, Repr

def ReadError.message : ReadError → String
  | .notXml => "invalid XML: not a well-formed document"
  | .unexpectedRoot name => "expected methodResponse, found " ++ name
  | .faultWithoutValue => "fault without value"
  | .faultNotStruct => "fault is not a struct"
  | .invalidInteger text => "invalid integer '" ++ text ++ "'"
  | .invalidBoolean text => "invalid boolean '" ++ text ++ "'"
  | .invalidDouble text => "invalid double '" ++ text ++ "'"
  | .unsupportedType name => "unsupported value type <" ++ name ++ ">"

/-! ## Scalars -/

namespace Reader

/-- An integer of 64 bits, blanks around it apart. -/
def integer (text : String) : Except ReadError Json :=
  match Text.i64? (Text.trimmed text) with
  | some i => .ok (.int i)
  | none => .error (.invalidInteger text)

def boolean (text : String) : Except ReadError Json :=
  match Text.trimmed text with
  | "1" | "true" => .ok (.bool true)
  | "0" | "false" => .ok (.bool false)
  | other => .error (.invalidBoolean other)

/-- A double; infinities and NaN become null. -/
def double (text : String) : Except ReadError Json :=
  match Decimal.double? (Text.trimmed text) with
  | some x => .ok (.double x)
  | none => .error (.invalidDouble text)

def isBase64Blank (c : Char) : Bool :=
  c == ' ' || c == '\t' || c == '\n' || c == '\x0c' || c == '\r'

/-- Base64 as text; what is no base64 stays as it is. -/
def base64 (text : String) : String :=
  match Base64.decode? (text.toList.filter fun c => !isBase64Blank c) with
  | some bytes => .ofList (Utf8.decode bytes)
  | none => text

/-- A value that has no parts, by the name of its type. -/
def scalar (type text : String) : Except ReadError Json :=
  match type with
  | "string" | "dateTime.iso8601" => .ok (.str text)
  | "int" | "i4" | "i8" => integer text
  | "boolean" => boolean text
  | "double" => double text
  | "base64" => .ok (.str (base64 text))
  | "nil" => .ok .null
  | other => .error (.unsupportedType other)

/-! ## Values -/

mutual

/-- Reads the value that an element holds: that of its first child element, or its
text if it has none. -/
def value : Xml.Node → Except ReadError Json
  | .element name children => typed (Xml.Node.element name children).leadingText children
  | _ => .ok (.str "")

/-- Reads the first element among nodes as a value; `untyped` is the value if there
is none. -/
def typed (untyped : String) : List Xml.Node → Except ReadError Json
  | [] => .ok (.str untyped)
  | .element "array" children :: _ => array children
  | .element "struct" children :: _ => (members children).map .object
  | .element type children :: _ => scalar type (Xml.Node.element type children).leadingText
  | _ :: rest => typed untyped rest

/-- Reads the first `data` among nodes as an array; without one it is empty. -/
def array : List Xml.Node → Except ReadError Json
  | [] => .ok (.arr [])
  | .element name children :: rest =>
    if name = "data" then (values children).map .arr else array rest
  | _ :: rest => array rest

def values : List Xml.Node → Except ReadError (List Json)
  | [] => .ok []
  | .element name children :: rest =>
    if name = "value" then
      match value (.element name children) with
      | .error e => .error e
      | .ok v => (values rest).map (v :: ·)
    else values rest
  | _ :: rest => values rest

def members : List Xml.Node → Except ReadError (List (String × Json))
  | [] => .ok []
  | .element name children :: rest =>
    if name = "member" then
      match memberValue children with
      | .error e => .error e
      | .ok v =>
        let key := (((Xml.Node.element name children).child? "name").map
          Xml.Node.leadingText).getD ""
        (members rest).map ((key, v) :: ·)
    else members rest
  | _ :: rest => members rest

/-- Reads the first `value` among the parts of a member; without one it is null. -/
def memberValue : List Xml.Node → Except ReadError Json
  | [] => .ok .null
  | .element name children :: rest =>
    if name = "value" then value (.element name children) else memberValue rest
  | _ :: rest => memberValue rest

end

end Reader

/-! ## Replies -/

inductive Reply where
  | success (value : Json)
  | fault (code text : String)
deriving Repr

namespace Reply

def ofFault : Json → Except ReadError Reply
  | .obj entries =>
    let code :=
      match Fields.find? "faultCode" entries with
      | some (.str s) => s
      | some (.num n) => (Json.num n).compact
      | _ => ""
    let text := ((Fields.find? "faultString" entries).bind Json.str?).getD ""
    .ok (.fault code text)
  | _ => .error .faultNotStruct

def ofRoot (root : Xml.Node) : Except ReadError Reply :=
  if !root.isNamed "methodResponse" then .error (.unexpectedRoot (root.name?.getD ""))
  else
    match root.child? "fault" with
    | some node =>
      match node.child? "value" with
      | none => .error .faultWithoutValue
      | some v => (Reader.value v).bind ofFault
    | none =>
      match ((root.child? "params").bind (·.child? "param")).bind (·.child? "value") with
      | none => .ok (.success .null)
      | some v => (Reader.value v).map .success

def read (body : String) : Except ReadError Reply :=
  match Xml.Node.parse? body.toList with
  | none => .error .notXml
  | some root => ofRoot root

end Reply

end CloudClient.XmlRpc
