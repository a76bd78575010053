import Pinning.Calendar
import Pinning.Text.Numeral
/-!
Dates and times in TOML: a date, a date and a time with or without an offset, or a time alone. The
day exists in its month, and the seconds are never left out.
-/

set_option autoImplicit false
set_option relaxedAutoImplicit false

namespace Pinning.Toml.Scalar

def digitGroup? (count : Nat) (cs : List Char) : Option (Nat × List Char) :=
  let digits := cs.take count
  if digits.length = count ∧ digits.all Text.isDigit then
    some (Text.decimalValue digits, cs.drop count)
  else none

def twoDigits? (least greatest : Nat) (cs : List Char) : Option (Nat × List Char) := do
  let (n, rest) ← digitGroup? 2 cs
  if least ≤ n ∧ n ≤ greatest then some (n, rest) else none

def expect? (c : Char) : List Char → Option (List Char)
  | [] => none
  | d :: rest => if c = d then some rest else none

def afterHour? (cs : List Char) : Option (List Char) := do
  expect? ':' (← twoDigits? 0 23 cs).2

def afterFraction (cs : List Char) : List Char :=
  match cs with
  | '.' :: c :: rest => if Text.isDigit c then rest.dropWhile Text.isDigit else cs
  | _ => cs

def afterMinutes? (cs : List Char) : Option (List Char) := do
  let (_, rest) ← twoDigits? 0 59 cs
  let (_, rest) ← twoDigits? 0 60 (← expect? ':' rest)
  some (afterFraction rest)

def afterOffset? (cs : List Char) : Option (List Char) :=
  match cs with
  | [] => some []
  | c :: rest =>
    if c = 'Z' ∨ c = 'z' then some rest
    else if c = '+' ∨ c = '-' then do
      let (_, after) ← twoDigits? 0 59 (← afterHour? rest)
      some after
    else some cs

def afterYear? (year : Nat) (cs : List Char) : Option (List Char) := do
  let (month, rest) ← twoDigits? 1 12 cs
  let (day, rest) ← twoDigits? 1 31 (← expect? '-' rest)
  if day ≤ Date.daysInMonth year month then some rest else none

def afterTimeOfDay? (cs : List Char) : Option (List Char) :=
  match cs with
  | [] => some []
  | c :: rest =>
    if c = 'T' ∨ c = 't' ∨ c = ' ' then
      match afterHour? rest with
      | none => some cs
      | some minutes => do afterOffset? (← afterMinutes? minutes)
    else some cs

def year? (cs : List Char) : Option (Nat × List Char) := do
  let (year, rest) ← digitGroup? 4 cs
  some (year, ← expect? '-' rest)

def isDateLike (cs : List Char) : Bool := (year? cs).isSome || (afterHour? cs).isSome

def afterDate? (cs : List Char) : Option (List Char) :=
  match year? cs with
  | some (year, rest) => do afterTimeOfDay? (← afterYear? year rest)
  | none => do afterMinutes? (← afterHour? cs)

example : afterDate? "1979-05-27 07:32:00.5-07:00 #".toList = some " #".toList := by decide +kernel
example : afterDate? "1979-02-30".toList = none ∧ afterDate? "07:32".toList = none := by
  decide +kernel

end Pinning.Toml.Scalar
