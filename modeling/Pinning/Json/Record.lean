import Pinning.Json
/-!
Records in JSON values. A record is read from an object, whose unknown members are ignored and whose
known ones may stand once, or from an array that holds the fields in their order. The two document
formats of this library differ in two decisions, which `Dialect` names.
-/

set_option autoImplicit false
set_option relaxedAutoImplicit false

namespace Pinning.Json

/-- What a document format decides about records and choices. -/
structure Dialect where
  /-- An array may hold more items than a record has fields. -/
  surplusItems : Bool
  /-- The payload that stands for nothing when a choice is written as a one-member object. -/
  isNothing : Json → Bool

/-- In JSON an array holds nothing beyond the fields, and `null` stands for nothing. -/
def strict : Dialect where
  surplusItems := false
  isNothing
    | .null => true
    | _ => false

abbrev Fields := List (String × Json)

def fields? (dialect : Dialect) (names : List String) : Json → Option Fields
  | .object members =>
    let known := members.filter fun member => names.contains member.1
    if (known.map Prod.fst).Nodup then some known else none
  | .array items =>
    if items.length ≤ names.length ∨ dialect.surplusItems then some (names.zip items) else none
  | _ => none

namespace Fields

def required {α : Type} (fields : Fields) (name : String) (read : Json → Option α) : Option α :=
  (fields.lookup name).bind read

def withDefault {α : Type} (fields : Fields) (name : String) (read : Json → Option α)
    (default : α) : Option α :=
  match fields.lookup name with
  | some value => read value
  | none => some default

end Fields

def text? : Json → Option String
  | .text value => some value
  | _ => none

def bool? : Json → Option Bool
  | .bool value => some value
  | _ => none

def list? {α : Type} (read : Json → Option α) : Json → Option (List α)
  | .array items => items.mapM read
  | _ => none

def bounded? (least greatest : Int) : Json → Option Int
  | .integer value => if least ≤ value ∧ value ≤ greatest then some value else none
  | _ => none

def int64? (j : Json) : Option Int64 :=
  (bounded? Int64.minValue.toInt Int64.maxValue.toInt j).map Int64.ofInt

def uint64? (j : Json) : Option UInt64 :=
  (bounded? 0 (UInt64.size - 1) j).map fun value => UInt64.ofNat value.toNat

def nullable? {α : Type} (read : Json → Option α) : Json → Option (Option α)
  | .null => some none
  | j => (read j).map some

def members? {α : Type} (read : Json → Option α) : Json → Option (List (String × α))
  | .object members => members.mapM fun (key, value) => (read value).map (key, ·)
  | _ => none

/-- One of several named choices: its name, or an object with its name as the only key. -/
def choice? {α : Type} (dialect : Dialect) (named? : String → Option α) : Json → Option α
  | .text name => named? name
  | .object [(name, payload)] => if dialect.isNothing payload then named? name else none
  | _ => none

end Pinning.Json
