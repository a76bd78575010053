import Pinning.Text.Numeral
import Pinning.Text.Split
/-!
IPv6 addresses in URLs: eight groups of up to four hexadecimal digits, of which a run of zeros may
be left out once, and of which the last two may be written as an IPv4 address. Written addresses
leave out the first longest run of at least two zeros.
-/

set_option autoImplicit false
set_option relaxedAutoImplicit false

namespace Pinning.Url.IPv6

def group? (cs : List Char) : Option Nat := do
  let digits ← cs.mapM Text.hexValue?
  if 1 ≤ digits.length ∧ digits.length ≤ 4 then some (Text.ofDigits 16 digits) else none

def byte? (cs : List Char) : Option Nat := do
  let digits ← cs.mapM Text.digitValue?
  let value := Text.ofDigits 10 digits
  if digits ≠ [] ∧ value ≤ 255 ∧ (digits.head? ≠ some 0 ∨ digits.length = 1) then some value
  else none

def dottedGroups? (cs : List Char) : Option (List Nat) := do
  match ← (Text.fields '.' cs).mapM byte? with
  | [a, b, c, d] => some [a * 256 + b, c * 256 + d]
  | _ => none

def lastGroups? (cs : List Char) : Option (List Nat) :=
  if cs.contains '.' then dottedGroups? cs else (group? cs).map ([·])

def endGroups? : List (List Char) → Option (List Nat)
  | [] => some []
  | [last] => lastGroups? last
  | field :: rest => do
    let group ← group? field
    let more ← endGroups? rest
    some (group :: more)

/-- The fields of a part of an address; the empty part has none. -/
def fieldsOf (cs : List Char) : List (List Char) :=
  if cs.isEmpty then [] else Text.fields ':' cs

def cutGap? : List Char → Option (List Char × List Char)
  | ':' :: ':' :: rest => some ([], rest)
  | c :: rest => (cutGap? rest).map fun (before, behind) => (c :: before, behind)
  | [] => none

/-- The eight groups that the text between the brackets denotes. -/
def parse? (cs : List Char) : Option (List Nat) :=
  match cutGap? cs with
  | some (before, behind) => do
    let left ← (fieldsOf before).mapM group?
    let right ← endGroups? (fieldsOf behind)
    let known := left.length + right.length
    if known ≤ 7 then some (left ++ List.replicate (8 - known) 0 ++ right) else none
  | none => do
    let groups ← endGroups? (fieldsOf cs)
    if groups.length = 8 then some groups else none

def zeroRun (groups : List Nat) : Nat := (groups.takeWhile (· == 0)).length

def longestRun (groups : List Nat) : Nat × Nat :=
  (List.range groups.length).foldl
    (fun best start =>
      let length := zeroRun (groups.drop start)
      if best.2 < length then (start, length) else best)
    (0, 0)

def joinGroups (groups : List Nat) : List Char :=
  [':'].intercalate (groups.map Text.hexadecimal)

def render (groups : List Nat) : List Char :=
  let (start, length) := longestRun groups
  if length < 2 then joinGroups groups
  else joinGroups (groups.take start) ++ ':' :: ':' :: joinGroups (groups.drop (start + length))

example : (parse? "::1".toList).map render = some "::1".toList := by decide +kernel
example : (parse? "1:0:0:2:0:0:0:1.2.3.4".toList) = none := by decide +kernel
example : (parse? "1:0:0:2::1.2.3.4".toList).map render = some "1::2:0:0:102:304".toList := by
  decide +kernel
example : parse? "::g".toList = none ∧ parse? ":1".toList = none := by decide +kernel

end Pinning.Url.IPv6
