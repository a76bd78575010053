import Pinning.Calendar
import Pinning.Text.Numeral
/-!
Instants in UTC to the nanosecond, with leap seconds. Inside a leap second the nanoseconds go on
from 10^9 while the second of the day stays at the last one of its minute. The dates reach from the
year -262143 to the year 262142.
-/

set_option autoImplicit false
set_option relaxedAutoImplicit false

namespace Pinning

namespace Timestamp

def firstDay : Int := Date.toDays ⟨-262143, 1, 1⟩

def lastDay : Int := Date.toDays ⟨262142, 12, 31⟩

def daySeconds : Nat := 86400

def secondNanos : Nat := 1000000000

end Timestamp

open Timestamp in
/-- An instant: a day, a second of the day, and nanoseconds. -/
structure Timestamp where
  /-- Days since the first of January 1970. -/
  day : Int
  /-- Seconds since midnight. -/
  second : Nat
  /-- Nanoseconds since the second began. -/
  nano : Nat
  firstDay_le : firstDay ≤ day
  le_lastDay : day ≤ lastDay
  second_lt : second < daySeconds
  nano_lt : nano < 2 * secondNanos
  /-- Only the last second of a minute is followed by a leap second. -/
  leap : secondNanos ≤ nano → second % 60 = 59
  deriving DecidableEq

namespace Timestamp

/-- The instant of a day, a second and nanoseconds, if there is one. -/
def of? (day : Int) (second nano : Nat) : Option Timestamp :=
  if h : firstDay ≤ day ∧ day ≤ lastDay ∧ second < daySeconds ∧ nano < 2 * secondNanos
      ∧ (secondNanos ≤ nano → second % 60 = 59) then
    some ⟨day, second, nano, h.1, h.2.1, h.2.2.1, h.2.2.2.1, h.2.2.2.2⟩
  else none

/-- The instant a number of seconds after the beginning of 1970. -/
def ofUnix? (seconds : Int) : Option Timestamp :=
  of? (seconds / daySeconds) (seconds % daySeconds).toNat 0

/-- The number of whole seconds since the beginning of 1970. -/
def toUnix (t : Timestamp) : Int := t.day * daySeconds + t.second

/-- Four digits, or a sign and at least four digits for a year outside 0 to 9999. -/
def yearText (year : Int) : List Char :=
  if 0 ≤ year ∧ year ≤ 9999 then Text.padded 4 year.toNat
  else (if year < 0 then '-' else '+') :: Text.padded 4 year.natAbs

/-- The shortest of none, three, six and nine decimal places that is exact. -/
def fractionText (nano : Nat) : List Char :=
  let part := nano % secondNanos
  if part = 0 then []
  else if part % 1000000 = 0 then '.' :: Text.padded 3 (part / 1000000)
  else if part % 1000 = 0 then '.' :: Text.padded 6 (part / 1000)
  else '.' :: Text.padded 9 part

/-- A day and a second of it; inside a leap second, it is the one after. -/
def clockText (day : Int) (second nano : Nat) : List Char :=
  let date := Date.ofDays day
  let ofMinute := second % 60 + nano / secondNanos
  yearText date.year ++ '-' :: Text.padded 2 date.month ++ '-' :: Text.padded 2 date.day
    ++ 'T' :: Text.padded 2 (second / 3600) ++ ':' :: Text.padded 2 (second / 60 % 60)
    ++ ':' :: Text.padded 2 ofMinute

/-- Date and time to the second; a leap second is the sixtieth of its minute. -/
def dateTimeText (t : Timestamp) : List Char := clockText t.day t.second t.nano

def render (t : Timestamp) : String :=
  String.ofList (dateTimeText t ++ fractionText t.nano ++ ['Z'])

/-- The text of an instant without its fraction of a second. -/
def renderSeconds (t : Timestamp) : String := String.ofList (dateTimeText t ++ ['Z'])

/-- The text of a positive number of seconds since 1970; zero and less stand for no instant. -/
def unixText? (seconds : Int) : Option String :=
  if seconds ≤ 0 then none else (ofUnix? seconds).map renderSeconds

example : unixText? 0 = none := by decide +kernel
example : unixText? 1688055638 = some "2023-06-29T16:20:38Z" := by decide +kernel

end Timestamp

end Pinning
