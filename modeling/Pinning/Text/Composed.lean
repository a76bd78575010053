import Pinning.Text.CombiningClass
import Pinning.Text.Decomposition
/-!
Composed text, the normalization form C: texts that stand for the same are made equal. A text is
first decomposed as far as possible, then the marks behind each character are put into the order of
their classes, and in the end every character takes in the marks that it composes with.
-/

set_option autoImplicit false
set_option relaxedAutoImplicit false

namespace Pinning.Text

def decompositionDepth : Nat := 4

def firstSyllable : Nat := 0xAC00

/-- The leading consonant, the vowel and, if there is one, the trailing consonant of the syllable at
a place. -/
def syllableParts (place : Nat) : List Nat :=
  let leading := 0x1100 + place / 588
  let vowel := 0x1161 + place % 588 / 28
  if place % 28 = 0 then [leading, vowel] else [leading, vowel, 0x11A7 + place % 28]

def isSyllable (n : Nat) : Bool := firstSyllable ≤ n && n < firstSyllable + 11172

def decomposed (depth n : Nat) : List Nat :=
  match depth with
  | 0 => [n]
  | depth + 1 =>
    if isSyllable n then syllableParts (n - firstSyllable)
    else match (composable.lookup n).or (decomposableOnly.lookup n) with
      | some parts => parts.flatMap (decomposed depth)
      | none => [n]

abbrev Classed := Nat × Nat

def placeMark (mark : Classed) : List Classed → List Classed
  | [] => [mark]
  | last :: before =>
    if mark.2 ≠ 0 ∧ mark.2 < last.2 then last :: placeMark mark before else mark :: last :: before

def ordered (ns : List Nat) : List Classed :=
  let classed := (ns.flatMap (decomposed decompositionDepth)).map fun n => (n, combiningClass n)
  (classed.foldl (fun done mark => placeMark mark done) []).reverse

def compose? (first second : Nat) : Option Nat :=
  if 0x1100 ≤ first ∧ first < 0x1113 ∧ 0x1161 ≤ second ∧ second < 0x1176 then
    some (firstSyllable + ((first - 0x1100) * 21 + (second - 0x1161)) * 28)
  else if isSyllable first ∧ (first - firstSyllable) % 28 = 0 ∧ 0x11A8 ≤ second
    ∧ second < 0x11C3 then
    some (first + (second - 0x11A7))
  else (composable.find? fun entry => entry.2 == [first, second]).map Prod.fst

/-- Compose a text behind a character and the marks that it has not taken in, which are given
backwards. A mark is kept from the character by one of its own class or a higher one in between. -/
def composeBehind (base : Nat) (marks : List Classed) : List Classed → List Nat
  | [] => base :: (marks.map Prod.fst).reverse
  | (n, rank) :: rest =>
    let isBlocked := marks.head?.any fun last => rank ≤ last.2
    match if isBlocked then none else compose? base n with
    | some composite => composeBehind composite marks rest
    | none =>
      if rank = 0 then base :: (marks.map Prod.fst).reverse ++ composeBehind n [] rest
      else composeBehind base ((n, rank) :: marks) rest

/-- Compose a text. Marks in front of the first character stay as they are. -/
def composedFrom : List Classed → List Nat
  | [] => []
  | (n, rank) :: rest =>
    if rank = 0 then composeBehind n [] rest else n :: composedFrom rest

def composed (ns : List Nat) : List Nat := composedFrom (ordered ns)

end Pinning.Text
