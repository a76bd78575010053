import Pinning.Toml
import Pinning.Text.Numeral
/-!
Numbers in TOML. Underscores may stand between digits. Integers fit into 64 bits and have no
superfluous zero; without a sign they may be written in another base. A positive number that is too
large for a double is refused.
-/

set_option autoImplicit false
set_option relaxedAutoImplicit false

namespace Pinning.Toml.Scalar

/-- Digits behind a first one, without the underscores between them, and what follows. -/
def moreDigits? (isDigit : Char → Bool) : List Char → Option (List Char × List Char)
  | [] => some ([], [])
  | '_' :: rest => if rest.head?.any isDigit then moreDigits? isDigit rest else none
  | c :: rest =>
    if isDigit c then (moreDigits? isDigit rest).map fun (digits, after) => (c :: digits, after)
    else some ([], c :: rest)

/-- One digit or more, without the underscores between them, and what follows. -/
def digits? (isDigit : Char → Bool) (cs : List Char) : Option (List Char × List Char) :=
  if cs.head?.any isDigit then moreDigits? isDigit cs else none

def wholePart? (cs : List Char) : Option (List Char × List Char) :=
  match cs with
  | '0' :: rest => some (['0'], rest)
  | _ => digits? Text.isDigit cs

def fraction? (cs : List Char) : Option (List Char × List Char) :=
  match cs with
  | '.' :: rest => digits? Text.isDigit rest
  | _ => some ([], cs)

def sign (cs : List Char) : List Char × List Char :=
  match cs with
  | '-' :: rest => (['-'], rest)
  | '+' :: rest => ([], rest)
  | _ => ([], cs)

def exponent? (cs : List Char) : Option (Option Int × List Char) :=
  match cs with
  | c :: rest =>
    if c = 'e' ∨ c = 'E' then do
      let (minus, rest) := sign rest
      let (digits, after) ← digits? Text.isDigit rest
      let value : Int := Text.decimalValue digits
      some (some (if minus.isEmpty then value else -value), after)
    else some (none, cs)
  | [] => some (none, [])

def firstInfinite : Nat := Nat.pow 2 1024 - Nat.pow 2 970

/-- A number of decimal digits, shifted by a power of ten, is infinite as a double. -/
def overflows (digits : Nat) (shift : Int) : Bool :=
  let places := (Text.decimal digits).length + shift
  if digits = 0 ∨ places < 309 then false
  else if 310 < places then true
  else if 0 ≤ shift then firstInfinite ≤ digits * Nat.pow 10 shift.toNat
  else firstInfinite * Nat.pow 10 (-shift).toNat ≤ digits

def fitting? (n : Int) : Option Value :=
  if Int64.minValue.toInt ≤ n ∧ n ≤ Int64.maxValue.toInt then some (.integer n) else none

def decimal? (cs : List Char) : Option (Value × List Char) := do
  let (minus, rest) := sign cs
  match rest with
  | 'i' :: 'n' :: 'f' :: after => some (.float (String.ofList (minus ++ "inf".toList)), after)
  | 'n' :: 'a' :: 'n' :: after => some (.float (String.ofList (minus ++ "nan".toList)), after)
  | _ =>
    let (whole, rest) ← wholePart? rest
    let (fraction, rest) ← fraction? rest
    let (exponent, after) ← exponent? rest
    if fraction.isEmpty && exponent.isNone then
      let magnitude : Int := Text.decimalValue whole
      some (← fitting? (if minus.isEmpty then magnitude else -magnitude), after)
    else
      let shift := exponent.getD 0 - fraction.length
      if minus.isEmpty && overflows (Text.decimalValue (whole ++ fraction)) shift then none
      else
        let written := minus ++ whole ++ '.' :: fraction ++ 'e' :: Text.signedDecimal shift
        some (.float (String.ofList written), after)

def isOctal (c : Char) : Bool := '0' ≤ c && c ≤ '7'

def isBinary (c : Char) : Bool := c == '0' || c == '1'

/-- An integer in another base, behind the mark of the base, and what follows it. -/
def based? (base : Nat) (isDigit : Char → Bool) (cs : List Char) :
    Option (Value × List Char) := do
  let (digits, after) ← digits? isDigit cs
  some (← fitting? (Text.ofDigits base (digits.filterMap Text.hexValue?)), after)

def number? : List Char → Option (Value × List Char)
  | '0' :: 'x' :: rest => based? 16 Text.isHexDigit rest
  | '0' :: 'o' :: rest => based? 8 isOctal rest
  | '0' :: 'b' :: rest => based? 2 isBinary rest
  | cs => decimal? cs

example : (decimal? "1_000 ".toList).map Prod.snd = some [' '] := by decide +kernel
example : (decimal? "1__0".toList).isNone = true ∧ (decimal? "1e400".toList).isNone = true := by
  decide +kernel

end Pinning.Toml.Scalar
