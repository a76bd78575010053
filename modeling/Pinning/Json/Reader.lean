import Pinning.Json
import Pinning.Text.Split
import Pinning.Text.Utf8
/-!
Reading JSON text, strictly: blanks are space, tab, line feed and carriage return, a text holds no
raw control character, numbers have no superfluous zero or sign, and nothing follows the value.
-/

set_option autoImplicit false
set_option relaxedAutoImplicit false

namespace Pinning.Json.Reader

def skipBlanks : List Char → List Char
  | [] => []
  | c :: rest =>
    if c = ' ' ∨ c = '\t' ∨ c = '\n' ∨ c = '\r' then skipBlanks rest else c :: rest

/-- A piece of a text literal: a character, or the UTF-16 unit of a four-digit escape. -/
inductive Piece
  | char (c : Char)
  | unit (value : Nat)

def fourHex? (a b c d : Char) : Option Nat := do
  let digits ← [a, b, c, d].mapM Text.hexValue?
  some (Text.ofDigits 16 digits)

def shortEscape? (c : Char) : Option Char :=
  match c with
  | '"' => some '"'
  | '\\' => some '\\'
  | '/' => some '/'
  | 'b' => some (Char.ofNat 8)
  | 'f' => some (Char.ofNat 12)
  | 'n' => some '\n'
  | 'r' => some '\r'
  | 't' => some '\t'
  | _ => none

/-- The pieces of a text literal behind its opening quote, and what follows its closing quote. -/
def pieces? : List Char → Option (List Piece × List Char)
  | '"' :: rest => some ([], rest)
  | '\\' :: 'u' :: a :: b :: c :: d :: rest => do
    let value ← fourHex? a b c d
    let (more, after) ← pieces? rest
    some (.unit value :: more, after)
  | '\\' :: c :: rest => do
    let escaped ← shortEscape? c
    let (more, after) ← pieces? rest
    some (.char escaped :: more, after)
  | c :: rest =>
    if c.toNat < 0x20 ∨ c = '\\' then none
    else (pieces? rest).map fun (more, after) => (.char c :: more, after)
  | [] => none

/-- The characters of a text literal; two surrogate units in sequence are one character. -/
def characters? : List Piece → Option (List Char)
  | [] => some []
  | .char c :: rest => (characters? rest).map (c :: ·)
  | .unit high :: rest =>
    if high < 0xD800 ∨ 0xDFFF < high then (characters? rest).map (Char.ofNat high :: ·)
    else if high < 0xDC00 then
      match rest with
      | .unit low :: rest =>
        if 0xDC00 ≤ low ∧ low ≤ 0xDFFF then
          (characters? rest).map
            (Char.ofNat (0x10000 + (high - 0xD800) * 0x400 + (low - 0xDC00)) :: ·)
        else none
      | _ => none
    else none

/-- A text literal behind its opening quote: the text, if it has one, and what follows. -/
def textBody? (cs : List Char) : Option (Option String × List Char) :=
  (pieces? cs).map fun (pieces, after) => ((characters? pieces).map String.ofList, after)

def digitRun (cs : List Char) : List Char × List Char :=
  (cs.takeWhile Text.isDigit, cs.dropWhile Text.isDigit)

/-- The integer part of a number: a zero, or digits that begin with none. -/
def wholePart? (cs : List Char) : Option (List Char × List Char) :=
  match cs with
  | '0' :: rest => some (['0'], rest)
  | _ =>
    match digitRun cs with
    | ([], _) => none
    | run => some run

def fraction? (cs : List Char) : Option (List Char × List Char) :=
  match cs with
  | '.' :: rest =>
    match digitRun rest with
    | ([], _) => none
    | (digits, after) => some ('.' :: digits, after)
  | _ => some ([], cs)

def exponent? (cs : List Char) : Option (List Char × List Char) :=
  match cs with
  | c :: rest =>
    if c = 'e' ∨ c = 'E' then
      let (sign, rest) := match rest with
        | '+' :: more => (['+'], more)
        | '-' :: more => (['-'], more)
        | _ => ([], rest)
      match digitRun rest with
      | ([], _) => none
      | (digits, after) => some (c :: sign ++ digits, after)
    else some ([], cs)
  | [] => some ([], [])

/-- A number: an integer unless it has a fraction or an exponent or is a negative zero. -/
def number? (cs : List Char) : Option (Json × List Char) := do
  let (sign, rest) := match cs with
    | '-' :: rest => (['-'], rest)
    | _ => ([], cs)
  let (whole, rest) ← wholePart? rest
  let (fraction, rest) ← fraction? rest
  let (exponent, rest) ← exponent? rest
  let magnitude := Text.decimalValue whole
  if fraction.isEmpty && exponent.isEmpty && !(magnitude == 0 && !sign.isEmpty) then
    some (.integer (if sign.isEmpty then magnitude else -magnitude), rest)
  else some (.decimal (String.ofList (sign ++ whole ++ fraction ++ exponent)), rest)

def ofMembers (members : List (Option String × Json)) : Json :=
  match members.mapM fun (key, value) => key.map (·, value) with
  | some members => .object members
  | none => .unreadable

mutual

/-- A value and what follows it. The fuel bounds the number of tokens. -/
def value? (fuel : Nat) (cs : List Char) : Option (Json × List Char) :=
  match fuel with
  | 0 => none
  | fuel + 1 =>
    match skipBlanks cs with
    | '"' :: rest =>
      (textBody? rest).map fun (body, after) => (body.elim .unreadable .text, after)
    | '[' :: rest =>
      match skipBlanks rest with
      | ']' :: after => some (.array [], after)
      | _ => (items? fuel rest).map fun (items, after) => (.array items, after)
    | '\x7b' :: rest =>
      match skipBlanks rest with
      | '\x7d' :: after => some (.object [], after)
      | _ => (members? fuel rest).map fun (members, after) => (ofMembers members, after)
    | 'n' :: 'u' :: 'l' :: 'l' :: after => some (.null, after)
    | 't' :: 'r' :: 'u' :: 'e' :: after => some (.bool true, after)
    | 'f' :: 'a' :: 'l' :: 's' :: 'e' :: after => some (.bool false, after)
    | rest => number? rest

def items? (fuel : Nat) (cs : List Char) : Option (List Json × List Char) :=
  match fuel with
  | 0 => none
  | fuel + 1 => do
    let (item, rest) ← value? fuel cs
    match skipBlanks rest with
    | ']' :: after => some ([item], after)
    | ',' :: rest =>
      let (more, after) ← items? fuel rest
      some (item :: more, after)
    | _ => none

def members? (fuel : Nat) (cs : List Char) : Option (List (Option String × Json) × List Char) :=
  match fuel with
  | 0 => none
  | fuel + 1 =>
    match skipBlanks cs with
    | '"' :: rest => do
      let (key, rest) ← textBody? rest
      match skipBlanks rest with
      | ':' :: rest =>
        let (value, rest) ← value? fuel rest
        match skipBlanks rest with
        | '\x7d' :: after => some ([(key, value)], after)
        | ',' :: rest =>
          let (more, after) ← members? fuel rest
          some ((key, value) :: more, after)
        | _ => none
      | _ => none
    | _ => none

end

end Pinning.Json.Reader

namespace Pinning.Json

def ofChars? (cs : List Char) : Option Json := do
  let (value, rest) ← Reader.value? (cs.length + 1) cs
  if (Reader.skipBlanks rest).isEmpty then some value else none

def parse? (s : String) : Option Json := ofChars? s.toList

/-- A stand-in for bytes that are not UTF-8. Like them it spoils the text that it stands in, which
only matters if that text is used, and is nothing that can stand anywhere else. The letter in front
of the unpaired surrogate keeps it from completing an escape. -/
def fault : List Char := ['x', '\\', 'u', 'D', 'C', '0', '0']

def ofBytes? (bs : List UInt8) : Option Json :=
  ofChars? ((Text.readChars bs).flatMap fun c => c.elim fault ([·]))

example : (ofBytes? [0x22, 0xFF, 0x22]).isSome = true
    ∧ (ofBytes? [0x22, 0x5C, 0xFF, 0x22]).isSome = false
    ∧ (ofBytes? [0xFF]).isSome = false := by
  decide +kernel

end Pinning.Json
