import Pinning.Text.Split
import Pinning.Toml.Scalar.Date
import Pinning.Toml.Scalar.Number
import Pinning.Toml.Scalar.Text
import Pinning.Toml.Table
/-!
Reading TOML documents. A document is a list of lines, each a header, a key with its value, or
nothing but a comment; values nest up to a fixed depth, and so do keys.
-/

set_option autoImplicit false
set_option relaxedAutoImplicit false

namespace Pinning.Toml.Reader

open Scalar (skipBlanks afterBreak? isBlank isPlain)

/-- The number of keys that one dotted key may not reach, and of values that may not be nested. -/
def depthLimit : Nat := 80

/-- The text behind a comment; a character that may not stand in one ends it. -/
def afterComment (cs : List Char) : List Char := cs.dropWhile isPlain

def skipLines (inComment : Bool) : List Char → List Char
  | [] => []
  | c :: rest =>
    if (afterBreak? (c :: rest)).isSome then skipLines (c = '\r' && inComment) rest
    else if inComment then if isPlain c then skipLines true rest else c :: rest
    else if c = '#' then skipLines true rest
    else if isBlank c then skipLines false rest
    else c :: rest

/-- What follows the end of a line; a comment may stand in front of it. -/
def afterLine? (cs : List Char) : Option (List Char) :=
  let rest := match skipBlanks cs with
    | '#' :: comment => afterComment comment
    | other => other
  if rest.isEmpty then some [] else afterBreak? rest

def isBareKeyChar (c : Char) : Bool := c.isAlphanum || c == '-' || c == '_'

def simpleKey? : List Char → Option (List Char × List Char)
  | '"' :: rest => Scalar.basic? rest
  | '\x27' :: rest => Scalar.literal? rest
  | cs =>
    let name := cs.takeWhile isBareKeyChar
    if name.isEmpty then none else some (name, cs.dropWhile isBareKeyChar)

/-- Keys with points between them, fewer than a limit, and what follows them. -/
def dottedKey? : Nat → List Char → Option (Key × List Char)
  | 0, _ => none
  | limit + 1, cs => do
    let (name, rest) ← simpleKey? (skipBlanks cs)
    let name := String.ofList name
    match skipBlanks rest with
    | '.' :: more =>
      let (key, after) ← dottedKey? limit more
      some (⟨name :: key.path, key.last⟩, after)
    | after => some (⟨[], name⟩, after)

def key? (cs : List Char) : Option (Key × List Char) := dottedKey? (depthLimit - 1) cs

def scalar? (cs : List Char) : Option (Value × List Char) :=
  match cs with
  | [] => none
  | c :: _ =>
    if c = '"' ∨ c = '\x27' then
      (Scalar.text? cs).map fun (text, after) => (.text (String.ofList text), after)
    else if Scalar.isDateLike cs then
      (Scalar.afterDate? cs).map fun after =>
        (.date (String.ofList (cs.take (cs.length - after.length))), after)
    else match Text.after? "true".toList cs, Text.after? "false".toList cs with
      | some after, _ => some (.bool true, after)
      | none, some after => some (.bool false, after)
      | none, none => Scalar.number? cs

mutual

/-- A value, and what follows it. The fuel bounds the number of values, and the depth how far they
are nested. -/
def value? (fuel depth : Nat) (cs : List Char) : Option (Value × List Char) :=
  match fuel, depth, cs with
  | 0, _, _ => none
  | fuel + 1, depth + 1, '[' :: rest =>
    (items? fuel depth rest).map fun (items, after) => (.array items, after)
  | fuel + 1, depth + 1, '\x7b' :: rest => do
    let (entries, after) ← match skipBlanks rest with
      | '\x7d' :: after => some ([], after)
      | _ => entries? fuel depth rest
    some (.table .inlined (← Members.insertAll [] entries), after)
  | _, _, cs => scalar? cs

/-- The items of an array up to its closing bracket; a comma may follow the last one. -/
def items? (fuel depth : Nat) (cs : List Char) : Option (List Value × List Char) :=
  match fuel, skipLines false cs with
  | 0, _ => none
  | _, ']' :: after => some ([], after)
  | fuel + 1, rest => do
    let (item, rest) ← value? fuel depth rest
    match skipLines false rest with
    | ']' :: after => some ([item], after)
    | ',' :: rest =>
      let (more, after) ← items? fuel depth rest
      some (item :: more, after)
    | _ => none

def entries? (fuel depth : Nat) (cs : List Char) : Option (List (Key × Value) × List Char) :=
  match fuel with
  | 0 => none
  | fuel + 1 => do
    let (key, rest) ← key? cs
    match rest with
    | '=' :: rest =>
      let (value, rest) ← value? fuel depth (skipBlanks rest)
      match skipBlanks rest with
      | '\x7d' :: after => some ([(key, value)], after)
      | ',' :: rest =>
        let (more, after) ← entries? fuel depth rest
        some ((key, value) :: more, after)
      | _ => none
    | _ => none

end

inductive Line
  | blank
  | entry (key : Key) (value : Value)
  | table (header : Key)
  | element (header : Key)

def header? (closing : List Char) (cs : List Char) : Option (Key × List Char) := do
  let (key, rest) ← key? cs
  some (key, ← Text.after? closing rest)

def statement? (cs : List Char) : Option (Line × List Char) :=
  match cs with
  | [] => some (.blank, [])
  | '[' :: '[' :: rest =>
    (header? "]]".toList rest).map fun (key, after) => (.element key, after)
  | '[' :: rest => (header? "]".toList rest).map fun (key, after) => (.table key, after)
  | c :: _ =>
    if c = '#' ∨ c = '\n' ∨ c = '\r' then some (.blank, cs)
    else do
      let (key, rest) ← key? cs
      let (value, after) ← value? (rest.length + 1) (depthLimit - 1)
        (skipBlanks (← Text.after? ['='] rest))
      some (.entry key value, after)

def lines? (fuel : Nat) (cs : List Char) : Option (List Line) :=
  match fuel with
  | 0 => none
  | fuel + 1 =>
    if cs.isEmpty then some []
    else do
      let (line, rest) ← statement? (skipBlanks cs)
      let lines ← lines? fuel (← afterLine? rest)
      some (line :: lines)

def addLine (parts : Section × List Section) : Line → Section × List Section
  | .blank => parts
  | .entry key value => (parts.1.add (key, value), parts.2)
  | .table header => (.table header [], parts.1 :: parts.2)
  | .element header => (.element header [], parts.1 :: parts.2)

def sections (lines : List Line) : List Section :=
  let (last, earlier) := lines.foldl addLine (.top [], [])
  (last :: earlier).reverse

def withoutMark : List Char → List Char
  | [] => []
  | c :: rest => if c.toNat = 0xFEFF then rest else c :: rest

def document? (cs : List Char) : Option Members := do
  let lines ← lines? (cs.length + 1) (withoutMark cs)
  (sections lines).foldlM Members.addSection []

end Pinning.Toml.Reader

namespace Pinning.Toml

def parse? (s : String) : Option Json :=
  (Reader.document? s.toList).map fun members => .object (membersToJson members)

end Pinning.Toml
