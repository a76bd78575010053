/-!
Numerals. `decimal` and `hexadecimal` write a number with the fewest digits, `padded` fills up with
zeros, and `digitValue?` and `hexValue?` read one digit.
-/

set_option autoImplicit false
set_option relaxedAutoImplicit false

namespace Pinning.Text

def decimal (n : Nat) : List Char := Nat.toDigits 10 n

def hexadecimal (n : Nat) : List Char := Nat.toDigits 16 n

def padded (width n : Nat) : List Char :=
  let digits := decimal n
  List.replicate (width - digits.length) '0' ++ digits

def signedDecimal (n : Int) : List Char :=
  if n < 0 then '-' :: decimal n.natAbs else decimal n.natAbs

def digitValue? (c : Char) : Option Nat :=
  if '0' ≤ c ∧ c ≤ '9' then some (c.toNat - 48) else none

def hexValue? (c : Char) : Option Nat :=
  if '0' ≤ c ∧ c ≤ '9' then some (c.toNat - 48)
  else if 'a' ≤ c ∧ c ≤ 'f' then some (c.toNat - 87)
  else if 'A' ≤ c ∧ c ≤ 'F' then some (c.toNat - 55)
  else none

def isDigit (c : Char) : Bool := (digitValue? c).isSome

def isHexDigit (c : Char) : Bool := (hexValue? c).isSome

def ofDigits (base : Nat) (digits : List Nat) : Nat :=
  digits.foldl (fun n d => n * base + d) 0

/-- The number that decimal digits denote; a character that is no digit ends the number. -/
def decimalValue (cs : List Char) : Nat :=
  ofDigits 10 (cs.filterMap digitValue?)

example : decimal 1024 = ['1', '0', '2', '4'] := by decide
example : padded 2 7 = ['0', '7'] := by decide
example : hexValue? 'F' = some 15 ∧ hexValue? 'g' = none := by decide
example : ofDigits 16 [2, 15] = 47 := by decide

end Pinning.Text
