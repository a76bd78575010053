import Pinning.Text.Numeral
import Pinning.Text.Split
/-!
Sets of characters as tables of code point ranges. A table is written as lines of hexadecimal ranges
in ascending order, `A-B` for all from `A` to `B` and `A` for one alone.
-/

set_option autoImplicit false
set_option relaxedAutoImplicit false

namespace Pinning.Text

def hexNumber (digits : List Char) : Nat := ofDigits 16 (digits.filterMap hexValue?)

abbrev CodeRanges := List (Nat × Nat)

def rangeOf (written : List Char) : Nat × Nat :=
  match cutFirst? '-' written with
  | some (first, last) => (hexNumber first, hexNumber last)
  | none => (hexNumber written, hexNumber written)

def wordsOf (line : String) : List (List Char) := fields ' ' line.toList

def CodeRanges.ofLines (lines : List String) : CodeRanges :=
  lines.flatMap fun line => (wordsOf line).map rangeOf

def CodeRanges.contains (ranges : CodeRanges) (n : Nat) : Bool :=
  ranges.any fun (first, last) => first ≤ n && n ≤ last

example : (CodeRanges.ofLines ["41-5A 61"]).contains 0x42 = true := by decide +kernel

end Pinning.Text
