import Pinning.Text.Numeral
import Pinning.Text.Split
/-!
IPv4 addresses in URLs. A host whose last label is a number is an address, and then all its labels
have to be numbers: up to four, decimal, octal behind a zero, or hexadecimal behind `0x`. The last
number fills all the bytes that the others leave.
-/

set_option autoImplicit false
set_option relaxedAutoImplicit false

namespace Pinning.Url.IPv4

def labels (cs : List Char) : List (List Char) :=
  let all := Text.fields '.' cs
  if all.getLast? = some [] then all.dropLast else all

def inBase? (base : Nat) (cs : List Char) : Option Nat := do
  let digits ← cs.mapM Text.hexValue?
  if digits.all (· < base) then some (Text.ofDigits base digits) else none

def number? : List Char → Option Nat
  | [] => none
  | '0' :: 'x' :: digits => inBase? 16 digits
  | '0' :: 'X' :: digits => inBase? 16 digits
  | '0' :: d :: digits => inBase? 8 (d :: digits)
  | cs => inBase? 10 cs

def endsInNumber (cs : List Char) : Bool :=
  match (labels cs).getLast? with
  | some (d :: digits) => (d :: digits).all Text.isDigit || (number? (d :: digits)).isSome
  | _ => false

def ofNumbers? (numbers : List Nat) : Option Nat :=
  match numbers.reverse with
  | [] => none
  | last :: others =>
    if others.length ≤ 3 ∧ others.all (· ≤ 255) ∧ last < Nat.pow 256 (4 - others.length) then
      some (Text.ofDigits 256 others.reverse * Nat.pow 256 (4 - others.length) + last)
    else none

def parse? (cs : List Char) : Option Nat := do
  let numbers ← (labels cs).mapM number?
  ofNumbers? numbers

def render (address : Nat) : List Char :=
  ['.'].intercalate
    ([(address >>> 24) % 256, (address >>> 16) % 256, (address >>> 8) % 256, address % 256].map
      Text.decimal)

example : (parse? "0x7f.1".toList).map render = some "127.0.0.1".toList := by decide +kernel
example : parse? "256.1.1.1".toList = none := by decide +kernel
example : endsInNumber "1.example".toList = false := by decide +kernel

end Pinning.Url.IPv4
