import Pinning.Text.Numeral
/-!
JSON values. Numbers are kept exactly: an integer by its value, any other literal as written. Object
members keep their order and may repeat a key. A text with an unpaired surrogate escape has no
characters to show; such a text, and an object with such a key, is `unreadable`, which is
well-formed but never the value of anything.
-/

set_option autoImplicit false
set_option relaxedAutoImplicit false

namespace Pinning

inductive Json
  | null
  | bool (value : Bool)
  | integer (value : Int)
  | decimal (literal : String)
  | text (value : String)
  | array (items : List Json)
  | object (members : List (String × Json))
  | unreadable

namespace Json

instance : Inhabited Json := ⟨.null⟩

def textChar (c : Char) : List Char :=
  if c = '"' then ['\\', '"']
  else if c = '\\' then ['\\', '\\']
  else if c = Char.ofNat 8 then ['\\', 'b']
  else if c = Char.ofNat 12 then ['\\', 'f']
  else if c = '\n' then ['\\', 'n']
  else if c = '\r' then ['\\', 'r']
  else if c = '\t' then ['\\', 't']
  else if c.toNat < 0x20 then
    ['\\', 'u', '0', '0', Nat.digitChar (c.toNat / 16), Nat.digitChar (c.toNat % 16)]
  else [c]

def textLiteral (s : String) : List Char := '"' :: s.toList.flatMap textChar ++ ['"']

/-- The line break in front of an item at a nesting depth, with two blanks for each level. -/
def lineBreak (depth : Nat) : List Char := '\n' :: List.replicate (2 * depth) ' '

/-- The written form of a value without blanks that could be left out. -/
def compact : Json → List Char
  | .null => ['n', 'u', 'l', 'l']
  | .bool true => ['t', 'r', 'u', 'e']
  | .bool false => ['f', 'a', 'l', 's', 'e']
  | .integer value => Text.signedDecimal value
  | .decimal literal => literal.toList
  | .text value => textLiteral value
  | .array items => '[' :: compactItems items ++ [']']
  | .object members => '\x7b' :: compactMembers members ++ ['\x7d']
  | .unreadable => textLiteral ""
where
  /-- Items behind one another with commas between them. -/
  compactItems : List Json → List Char
    | [] => []
    | [item] => compact item
    | item :: next :: rest => compact item ++ ',' :: compactItems (next :: rest)
  /-- Members behind one another with commas between them. -/
  compactMembers : List (String × Json) → List Char
    | [] => []
    | [(key, value)] => textLiteral key ++ ':' :: compact value
    | (key, value) :: next :: rest =>
      textLiteral key ++ ':' :: compact value ++ ',' :: compactMembers (next :: rest)

def pretty (depth : Nat) : Json → List Char
  | .array [] => ['[', ']']
  | .object [] => ['\x7b', '\x7d']
  | .array items => '[' :: prettyItems (depth + 1) items ++ lineBreak depth ++ [']']
  | .object members => '\x7b' :: prettyMembers (depth + 1) members ++ lineBreak depth ++ ['\x7d']
  | .null => ['n', 'u', 'l', 'l']
  | .bool true => ['t', 'r', 'u', 'e']
  | .bool false => ['f', 'a', 'l', 's', 'e']
  | .integer value => Text.signedDecimal value
  | .decimal literal => literal.toList
  | .text value => textLiteral value
  | .unreadable => textLiteral ""
where
  /-- Items on lines of their own with commas between them. -/
  prettyItems (depth : Nat) : List Json → List Char
    | [] => []
    | [item] => lineBreak depth ++ pretty depth item
    | item :: next :: rest =>
      lineBreak depth ++ pretty depth item ++ ',' :: prettyItems depth (next :: rest)
  /-- Members on lines of their own with commas between them. -/
  prettyMembers (depth : Nat) : List (String × Json) → List Char
    | [] => []
    | [(key, value)] => lineBreak depth ++ textLiteral key ++ ':' :: ' ' :: pretty depth value
    | (key, value) :: next :: rest =>
      lineBreak depth ++ textLiteral key ++ ':' :: ' ' :: pretty depth value
        ++ ',' :: prettyMembers depth (next :: rest)

end Json

end Pinning
