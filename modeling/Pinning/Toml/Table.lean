import Pinning.Toml
/-!
Adding to the tables of a TOML document. No key is given a value twice. A dotted key or a header
leads through tables, which are made on the way if they are missing; dotted keys do not enter tables
that a header names, a header does not name a table again that a header or a dotted key has named,
and nothing is added to a table that is written as a value.
-/

set_option autoImplicit false
set_option relaxedAutoImplicit false

namespace Pinning.Toml

/-- A dotted key: the tables it leads through, and the key in the last of them. -/
structure Key where
  path : List String
  last : String
  deriving DecidableEq

namespace Members

/-- Give a key a new value, at its place if it has one and behind all others if not. -/
def put (key : String) (value : Value) : Members → Members
  | [] => [(key, value)]
  | member :: rest =>
    if member.1 = key then (key, value) :: rest else member :: put key value rest

def changeLast (change : Members → Option Members) : List Members → Option (List Members)
  | [] => none
  | [members] => (change members).map fun changed => [changed]
  | members :: rest => (changeLast change rest).map (members :: ·)

/-- Change the table that a path leads to. The change is given how that table came about. -/
def changeAt (onTheWay : Origin) (change : Origin → Members → Option Members) :
    List String → Origin → Members → Option Members
  | [], origin, members => change origin members
  | key :: path, _, members =>
    match members.lookup key with
    | none => do
      let made ← changeAt onTheWay change path onTheWay []
      some (put key (.table onTheWay made) members)
    | some (.table origin inner) =>
      if origin = .inlined ∨ (onTheWay = .dotted ∧ origin = .header) then none
      else do
        let changed ← changeAt onTheWay change path origin inner
        some (put key (.table origin changed) members)
    | some (.tables elements) => do
      let changed ← changeLast (changeAt onTheWay change path .header) elements
      some (put key (.tables changed) members)
    | some _ => none

/-- Give a key of a table its value. Behind a dotted path the table must have come about by dotted
keys. -/
def define (key : Key) (value : Value) (origin : Origin) (members : Members) : Option Members :=
  if key.path ≠ [] ∧ origin ≠ .dotted then none
  else match members.lookup key.last with
    | some _ => none
    | none => some (put key.last value members)

def insert (members : Members) (entry : Key × Value) : Option Members :=
  changeAt .dotted (define entry.1 entry.2) entry.1.path .header members

def insertAll (members : Members) (entries : List (Key × Value)) : Option Members :=
  entries.foldlM insert members

def openTable (name : String) (entries : List (Key × Value)) (_ : Origin) (members : Members) :
    Option Members :=
  match members.lookup name with
  | none => do some (put name (.table .header (← insertAll [] entries)) members)
  | some (.table .implied inner) => do
    some (put name (.table .header (← insertAll inner entries)) members)
  | some _ => none

def appendTable (name : String) (entries : List (Key × Value)) (_ : Origin) (members : Members) :
    Option Members :=
  match members.lookup name with
  | none => do some (put name (.tables [← insertAll [] entries]) members)
  | some (.tables elements) => do
    some (put name (.tables (elements ++ [← insertAll [] entries])) members)
  | some _ => none

end Members

/-- A part of a document: keys and values, under a header or under none. -/
inductive Section
  | top (entries : List (Key × Value))
  | table (header : Key) (entries : List (Key × Value))
  | element (header : Key) (entries : List (Key × Value))

def Section.add (part : Section) (entry : Key × Value) : Section :=
  match part with
  | .top entries => .top (entries ++ [entry])
  | .table header entries => .table header (entries ++ [entry])
  | .element header entries => .element header (entries ++ [entry])

def Members.addSection (members : Members) : Section → Option Members
  | .top entries => members.insertAll entries
  | .table header entries =>
    members.changeAt .implied (openTable header.last entries) header.path .header
  | .element header entries =>
    members.changeAt .implied (appendTable header.last entries) header.path .header

end Pinning.Toml
