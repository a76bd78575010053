/-!
UTF-8. `utf8Bytes` writes a text as bytes. Reading takes one character at a time; where the bytes
are not well-formed, the longest beginning of a character that is there counts as one fault.
`decode?` refuses faults and `decodeLossy` puts the replacement character in their place.
-/

set_option autoImplicit false
set_option relaxedAutoImplicit false

namespace Pinning.Text

def utf8Bytes (cs : List Char) : List UInt8 := cs.flatMap String.utf8EncodeChar

def byteIn (low high : Nat) (b : UInt8) : Bool := low ≤ b.toNat && b.toNat ≤ high

def tailBits (b : UInt8) : Nat := b.toNat % 64

def secondBounds (first : UInt8) : Nat × Nat :=
  if first.toNat = 0xE0 then (0xA0, 0xBF)
  else if first.toNat = 0xED then (0x80, 0x9F)
  else if first.toNat = 0xF0 then (0x90, 0xBF)
  else if first.toNat = 0xF4 then (0x80, 0x8F)
  else (0x80, 0xBF)

/-- The number of bytes of the character that a byte begins; none if it begins no character. -/
def sequenceLength? (first : UInt8) : Option Nat :=
  if first.toNat < 0x80 then some 1
  else if byteIn 0xC2 0xDF first then some 2
  else if byteIn 0xE0 0xEF first then some 3
  else if byteIn 0xF0 0xF4 first then some 4
  else none

/-- The tail bytes of a character: at most `count` of them, the first within its own bounds. -/
def tailRun (bounds : Nat × Nat) (count : Nat) (bs : List UInt8) : List UInt8 :=
  match count, bs with
  | 0, _ => []
  | _ + 1, [] => []
  | count + 1, b :: rest =>
    if byteIn bounds.1 bounds.2 b then b :: tailRun (0x80, 0xBF) count rest else []

/-- The character at the beginning of bytes, or none for a fault, and the number of bytes behind the
first one that belong to it. -/
def readChar (first : UInt8) (rest : List UInt8) : Option Char × Nat :=
  match sequenceLength? first with
  | none => (none, 0)
  | some length =>
    let tail := tailRun (secondBounds first) (length - 1) rest
    if tail.length + 1 = length then
      let lead := if length = 1 then first.toNat else first.toNat % Nat.pow 2 (7 - length)
      (some (Char.ofNat (tail.foldl (fun n b => n * 64 + tailBits b) lead)), tail.length)
    else (none, tail.length)

def readChars : List UInt8 → List (Option Char)
  | [] => []
  | b :: rest =>
    let (c, count) := readChar b rest
    c :: readChars (rest.drop count)
  termination_by bs => bs.length
  decreasing_by simp only [List.length_drop, List.length_cons]; omega

def decode? (bs : List UInt8) : Option (List Char) := (readChars bs).mapM id

def decodeLossy (bs : List UInt8) : List Char :=
  (readChars bs).map fun c => c.getD (Char.ofNat 0xFFFD)

example : decode? (utf8Bytes "aé中😀".toList) = some "aé中😀".toList := by
  simp only [decode?]; decide +kernel
example : decodeLossy [0x61, 0xE4, 0xB8, 0x62] = ['a', Char.ofNat 0xFFFD, 'b'] := by decide +kernel

end Pinning.Text
