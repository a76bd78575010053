import Pinning.Json.Record
/-!
Values of TOML documents. A table remembers how it came about, because that decides what a document
may still add to it.
-/

set_option autoImplicit false
set_option relaxedAutoImplicit false

namespace Pinning.Toml

inductive Origin
  | inlined
  | header
  | implied
  | dotted
  deriving DecidableEq

inductive Value
  | text (value : String)
  | integer (value : Int)
  /-- A number with a fraction or an exponent, or one that is not finite, as it is written. -/
  | float (written : String)
  | bool (value : Bool)
  | date (written : String)
  | array (items : List Value)
  | table (origin : Origin) (members : List (String × Value))
  /-- Tables that share a header, each with its members. -/
  | tables (elements : List (List (String × Value)))

abbrev Members := List (String × Value)

def dateField : String := "$date"

mutual

/-- A value as JSON. A date is a record of its own. -/
def Value.toJson : Value → Json
  | .text value => .text value
  | .integer value => .integer value
  | .float written => .decimal written
  | .bool value => .bool value
  | .date written => .object [(dateField, .text written)]
  | .array items => .array (itemsToJson items)
  | .table _ members => .object (membersToJson members)
  | .tables elements => .array (elementsToJson elements)

def itemsToJson : List Value → List Json
  | [] => []
  | item :: rest => item.toJson :: itemsToJson rest

def membersToJson : Members → List (String × Json)
  | [] => []
  | (key, value) :: rest => (key, value.toJson) :: membersToJson rest

def elementsToJson : List Members → List Json
  | [] => []
  | members :: rest => .object (membersToJson members) :: elementsToJson rest

end

/-- In TOML an array may hold items beyond the fields, and an empty array or table stands for
nothing. -/
def dialect : Json.Dialect where
  surplusItems := true
  isNothing
    | .array [] | .object [] => true
    | _ => false

end Pinning.Toml
