import CloudClient.Text.Case
import CloudClient.Text.Search

/-!
# Names of services and methods

What the name of a method tells: whether it only reads, which HTTP verb carries
it, and which property of the service's object it lists.
-/

namespace CloudClient

inductive Verb where
  | get
  | post
  | put
  | delete
deriving DecidableEq, Repr

def Verb.text : Verb → String
  | .get => "GET"
  | .post => "POST"
  | .put => "PUT"
  | .delete => "DELETE"

namespace Naming

/-- What every full service name starts with. -/
def serviceHead : String := "SoftLayer_"

/-- The full name of a service; a short name gets the common head. -/
def fullService (service : String) : String :=
  if Text.startsWith service serviceHead then service else serviceHead ++ service

/-- The verb of a method without arguments. -/
def verb (method : String) : Verb :=
  if Text.startsWith method "get" then .get
  else if Text.startsWith method "delete" then .delete
  else if Text.startsWith method "edit" || Text.startsWith method "update" then .put
  else .post

/-- Whether a method only reads, so that repeating it does no harm. -/
def isReadShaped (method : String) : Bool :=
  Text.startsWith method "get" || Text.startsWith method "list"

/-- The property that a method lists, as a scope for filters: none if it lists the
service's own objects or is no `get` method. -/
def listingScope (method : String) : Option String :=
  match Text.dropHead? "get".toList method.toList with
  | some (first :: rest) =>
    let property := String.ofList (first :: rest)
    if property == "Object" || property == "AllObjects" then none
    else some (.ofList (Text.lower first ++ rest))
  | _ => none

end Naming

end CloudClient
