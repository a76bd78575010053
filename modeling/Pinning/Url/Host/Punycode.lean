import Pinning.Text.Split
/-!
Punycode, the notation of labels with other characters than those of ASCII. The ASCII characters
come first and a hyphen behind them; then every other character is named by how far it is, in code
points and places, from the one named before it. Distances are numerals of base 36 whose digits have
thresholds that adapt to the distances so far.
-/

set_option autoImplicit false
set_option relaxedAutoImplicit false

namespace Pinning.Url.Punycode

def base : Nat := 36

def firstOther : Nat := 0x80

def firstBias : Nat := 72

def digit (n : Nat) : Char := if n < 26 then Char.ofNat (97 + n) else Char.ofNat (22 + n)

def digitValue? (c : Char) : Option Nat :=
  if 'a' ≤ c ∧ c ≤ 'z' then some (c.toNat - 97)
  else if 'A' ≤ c ∧ c ≤ 'Z' then some (c.toNat - 65)
  else if '0' ≤ c ∧ c ≤ '9' then some (c.toNat - 22)
  else none

def threshold (weight bias : Nat) : Nat := max 1 (min 26 (weight - bias))

/-- Scale a distance down; the result goes with the number of digits it loses. -/
def scaled (distance digits : Nat) : Nat × Nat :=
  if 455 < distance then scaled (distance / 35) (digits + base) else (distance, digits)
  termination_by distance
  decreasing_by omega

def adapt (distance count : Nat) (isFirst : Bool) : Nat :=
  let start := if isFirst then distance / 700 else distance / 2
  let (rest, digits) := scaled (start + start / count) 0
  digits + 36 * rest / (rest + 38)

def encodeNumber (bias weight n : Nat) : List Char :=
  let t := threshold weight bias
  if n < t then [digit n]
  else digit (t + (n - t) % (base - t)) :: encodeNumber bias (weight + base) ((n - t) / (base - t))
  termination_by n
  decreasing_by
    have ht : 1 ≤ threshold weight bias := Nat.le_max_left _ _
    have := Nat.div_le_self (n - threshold weight bias) (base - threshold weight bias)
    omega

/-- How far naming has come: the numerals, the distance since the last one, the bias, and the number
of characters named. -/
structure Progress where
  written : List Char
  distance : Nat
  bias : Nat
  count : Nat

/-- Pass one character of a label on the way to the occurrences of a code point. -/
def pass (target plainCount : Nat) (p : Progress) (c : Char) : Progress :=
  if c.toNat < target then { p with distance := p.distance + 1 }
  else if c.toNat = target then {
    written := p.written ++ encodeNumber p.bias base p.distance
    distance := 0
    bias := adapt p.distance (p.count + 1) (p.count == plainCount)
    count := p.count + 1 }
  else p

/-- Name all occurrences of code points, given the first one that is not passed yet. -/
def encodeOthers (label : List Char) (plainCount : Nat) : Nat → Progress → List Nat → Progress
  | _, p, [] => p
  | reached, p, target :: more =>
    let jumped := { p with distance := p.distance + (target - reached) * (p.count + 1) }
    let passed := label.foldl (pass target plainCount) jumped
    encodeOthers label plainCount (target + 1) { passed with distance := passed.distance + 1 } more

def insertAscending (n : Nat) : List Nat → List Nat
  | [] => [n]
  | m :: rest =>
    if n < m then n :: m :: rest else if n = m then m :: rest else m :: insertAscending n rest

def encode (label : List Char) : List Char :=
  let plain := label.filter (·.toNat < firstOther)
  let others := (label.filter (firstOther ≤ ·.toNat)).map Char.toNat
  let start : Progress := { written := [], distance := 0, bias := firstBias, count := plain.length }
  let named := encodeOthers label plain.length firstOther start (others.foldr insertAscending [])
  (if plain.isEmpty then [] else plain ++ ['-']) ++ named.written

def decodeNumber? (bias weight factor : Nat) : List Char → Option (Nat × List Char)
  | [] => none
  | c :: rest => do
    let value ← digitValue? c
    let t := threshold weight bias
    if value < t then some (value * factor, rest)
    else
      let (more, after) ← decodeNumber? bias (weight + base) (factor * (base - t)) rest
      some (value * factor + more, after)

theorem length_of_decodeNumber? {bias weight factor n : Nat} {cs rest : List Char}
    (h : decodeNumber? bias weight factor cs = some (n, rest)) : rest.length < cs.length := by
  induction cs generalizing weight factor n with
  | nil => simp [decodeNumber?] at h
  | cons c cs ih =>
    simp only [decodeNumber?, Option.bind_eq_bind, Option.bind_eq_some_iff] at h
    obtain ⟨value, -, h⟩ := h
    split at h
    · obtain ⟨-, rfl⟩ := by simpa using h
      simp
    · obtain ⟨⟨more, after⟩, hmore, h⟩ := Option.bind_eq_some_iff.1 h
      obtain ⟨-, rfl⟩ := by simpa using h
      exact Nat.lt_succ_of_lt (ih hmore)

/-- The label behind the characters that have been named, given the code point and the place that
distances are counted from. -/
def decodeOthers? (label : List Char) (reached place bias : Nat) (isFirst : Bool)
    (cs : List Char) : Option (List Char) :=
  match cs with
  | [] => some label
  | c :: tail =>
    match hn : decodeNumber? bias base 1 (c :: tail) with
    | none => none
    | some (distance, rest) =>
      let count := label.length + 1
      let target := reached + (place + distance) / count
      let at_ := (place + distance) % count
      if target.isValidChar then
        decodeOthers? (label.take at_ ++ Char.ofNat target :: label.drop at_) target (at_ + 1)
          (adapt distance count isFirst) false rest
      else none
  termination_by cs.length
  decreasing_by exact length_of_decodeNumber? hn

def decode? (written : List Char) : Option (List Char) :=
  let (plain, rest) := (Text.cutLast? '-' written).getD ([], written)
  if plain.all (·.toNat < firstOther) then decodeOthers? plain firstOther 0 firstBias true rest
  else none

example : encode "bücher".toList = "bcher-kva".toList := by decide +kernel
example : decode? "bcher-kva".toList = some "bücher".toList := by decide +kernel

end Pinning.Url.Punycode
