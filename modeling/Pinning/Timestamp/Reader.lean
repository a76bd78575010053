import Pinning.Text.Blank
import Pinning.Timestamp
/-!
Reading instants. The form is the internet date and time format with some freedom: blanks may stand
in front of numbers, separators and the offset, numbers need no leading zeros, the year may have a
sign and then any number of digits, and `T`, `t` or a space divides date and time. The offset from
UTC is always there and is subtracted.
-/

set_option autoImplicit false
set_option relaxedAutoImplicit false

namespace Pinning.Timestamp

/-- At most `limit` leading decimal digits, and what follows them. -/
def digits (limit : Nat) (cs : List Char) : List Char × List Char :=
  let run := (cs.take limit).takeWhile Text.isDigit
  (run, cs.drop run.length)

def unsigned? (limit : Nat) (cs : List Char) : Option (Nat × List Char) :=
  match digits limit cs with
  | ([], _) => none
  | (run, rest) => some (Text.decimalValue run, rest)

def twoDigit? (cs : List Char) : Option (Nat × List Char) := unsigned? 2 (Text.trimStart cs)

/-- A year of up to four digits, or of any length behind a sign. -/
def year? (cs : List Char) : Option (Int × List Char) :=
  match Text.trimStart cs with
  | '-' :: rest => (unsigned? rest.length rest).map fun (n, rest) => (-(n : Int), rest)
  | '+' :: rest => (unsigned? rest.length rest).map fun (n, rest) => ((n : Int), rest)
  | rest => (unsigned? 4 rest).map fun (n, rest) => ((n : Int), rest)

def separator? (sep : Char) (cs : List Char) : Option (List Char) :=
  match Text.trimStart cs with
  | c :: rest => if c = sep then some rest else none
  | [] => none

def dateEnd? : List Char → Option (List Char)
  | c :: rest => if c = 'T' ∨ c = 't' ∨ c = ' ' then some rest else none
  | [] => none

/-- Nanoseconds from a decimal fraction; digits behind the ninth count for nothing. -/
def fraction? : List Char → Option (Nat × List Char)
  | '.' :: rest =>
    match digits 9 rest with
    | ([], _) => none
    | (run, rest) =>
      some (Text.decimalValue run * Nat.pow 10 (9 - run.length), rest.dropWhile Text.isDigit)
  | rest => some (0, rest)

def digitPair? : List Char → Option (Nat × List Char)
  | a :: b :: rest => do
    let tens ← Text.digitValue? a
    let ones ← Text.digitValue? b
    some (10 * tens + ones, rest)
  | _ => none

/-- Drop the colons and blanks between the hours and the minutes of an offset. -/
def skipColons : List Char → List Char
  | [] => []
  | c :: rest => if c = ':' ∨ Text.isBlank c then skipColons rest else c :: rest

def offsetSize? (cs : List Char) : Option (Nat × List Char) := do
  let (hours, rest) ← digitPair? cs
  let (minutes, rest) ← digitPair? (skipColons rest)
  if hours < 24 ∧ minutes < 60 then some (hours * 3600 + minutes * 60, rest) else none

def offset? (cs : List Char) : Option (Int × List Char) :=
  match cs with
  | 'Z' :: rest => some (0, rest)
  | 'z' :: rest => some (0, rest)
  | '+' :: rest => (offsetSize? rest).map fun (size, rest) => ((size : Int), rest)
  | a :: rest =>
    if a = '-' ∨ a = Char.ofNat 0x2212 then
      (offsetSize? rest).map fun (size, rest) => (-(size : Int), rest)
    else if (cs.take 3).map Char.toUpper = ['U', 'T', 'C'] then some (0, cs.drop 3)
    else none
  | [] => none

/-- The instant that a date, a time of day and an offset denote. The date has to lie in range both
where the offset applies and in UTC. -/
def instant? (date : Date) (hour minute second nano : Nat) (offset : Int) : Option Timestamp :=
  if date.IsValid ∧ firstDay ≤ date.toDays ∧ date.toDays ≤ lastDay
      ∧ hour < 24 ∧ minute < 60 ∧ second ≤ 60 then
    let ofMinute := min second 59
    let elapsed : Int := hour * 3600 + minute * 60 + ofMinute - offset
    of? (date.toDays + elapsed / daySeconds) (elapsed % daySeconds).toNat
      (nano + if second = 60 then secondNanos else 0)
  else none

def ofChars? (cs : List Char) : Option Timestamp := do
  let (year, cs) ← year? cs
  let cs ← separator? '-' cs
  let (month, cs) ← twoDigit? cs
  let cs ← separator? '-' cs
  let (day, cs) ← twoDigit? cs
  let cs ← dateEnd? cs
  let (hour, cs) ← twoDigit? cs
  let cs ← separator? ':' cs
  let (minute, cs) ← twoDigit? cs
  let cs ← separator? ':' cs
  let (second, cs) ← twoDigit? cs
  let (nano, cs) ← fraction? cs
  let (offset, cs) ← offset? (Text.trimStart cs)
  if (Text.trimStart cs).isEmpty then
    instant? ⟨year, month, day⟩ hour minute second nano offset
  else none

def parse? (s : String) : Option Timestamp := ofChars? s.toList

example : (parse? "2023-12-31T23:59:59-05:00").map render = some "2024-01-01T04:59:59Z" := by
  decide +kernel
example : (parse? "2016-12-31 23:59:60.5Z").map render = some "2016-12-31T23:59:60.500Z" := by
  decide +kernel

end Pinning.Timestamp
