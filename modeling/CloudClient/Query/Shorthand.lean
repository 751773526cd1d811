import CloudClient.Query.Date
import CloudClient.Query.Filter

/-!
# Shorthand — leaves from what users type

An operator in front of a text is kept; asterisks around it ask for a match in
the middle, at the start or at the end; an integer is compared as a number; any
other text has to match as a whole.

* `Shorthand.operation` reads a text.
* `orderBy`, `among` and `between` build the leaves that carry options.
* `Filter.ordered` makes the order of a listing definite.
-/

namespace CloudClient

inductive SortDirection where
  | ascending
  | descending
deriving DecidableEq, Repr

def SortDirection.text : SortDirection → String
  | .ascending => "ASC"
  | .descending => "DESC"

namespace Shorthand

/-- The operators that a text may start with; an operator stands in front of every
operator that it begins with. -/
def operators : List String :=
  ["<=", ">=", "<", ">", "~", "!~", "*=", "^=", "$=", "_="]

/-- The text with one of the operators taken off, and the operator. -/
def splitOperator? (cs : List Char) : List String → Option (String × List Char)
  | [] => none
  | op :: rest =>
    match Text.dropHead? op.toList cs with
    | some body => some (op, body)
    | none => splitOperator? cs rest

def apply (op : String) (operand : List Char) : Operation :=
  .text (op ++ " " ++ .ofList operand)

def wildcard (cs : List Char) : Operation :=
  let starts := cs.head? == some '*'
  let ends := cs.getLast? == some '*'
  if 1 < cs.length && starts && ends then apply "~" (Text.stripChar '*' cs)
  else if starts then apply "$=" (cs.dropWhile (· == '*'))
  else if ends then apply "^=" (cs.reverse.dropWhile (· == '*')).reverse
  else apply "_=" cs

def operation (query : String) : Operation :=
  let cs := Text.trim query.toList
  match Text.i64? (.ofList cs) with
  | some i => .integer i
  | none =>
    match splitOperator? cs operators with
    | some (op, operand) => apply op (Text.trim operand)
    | none => wildcard cs

def leaf (op : Operation) : FilterNode := .leaf op []

def text (query : String) : FilterNode := leaf (operation query)

def integer (i : Int) : FilterNode := leaf (.integer i)

def boolean (b : Bool) : FilterNode := leaf (.boolean b)

/-- The leaf that compares with a text as it stands. -/
def exact (value : String) : FilterNode := leaf (.text value)

def orderBy (direction : SortDirection) : FilterNode :=
  .leaf (.text "orderBy") [⟨"sort", [.str direction.text]⟩]

/-- The leaf that matches any of some values. -/
def among (values : List Json) : FilterNode :=
  .leaf (.text "in") [⟨"data", values⟩]

/-- The leaf that matches from one day to another. -/
def between (start finish : String) : Except QueryError FilterNode :=
  match Date.parse? start with
  | none => .error (.invalidDate start)
  | some a =>
    match Date.parse? finish with
    | none => .error (.invalidDate finish)
    | some b =>
      .ok (.leaf (.text "betweenDate")
        [⟨"startDate", [.str a.wireText]⟩, ⟨"endDate", [.str b.wireText]⟩])

end Shorthand

/-- The filter of a paged listing: unless some leaf orders the result already, it
is ordered by `id`, under the scope if there is one.  A scope that is no path
leaves the filter as it is. -/
def Filter.ordered (filter : Option Filter) (scope : Option String) : Filter :=
  let f := filter.getD .empty
  if f.hasOperation "orderBy" then f
  else
    let path :=
      match scope with
      | none => "id"
      | some s => s ++ ".id"
    match Filter.empty.set path (Shorthand.orderBy .ascending) with
    | .error _ => f
    | .ok derived => derived.merge f

end CloudClient
