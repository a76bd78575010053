import Pinning.Text.Numeral
/-!
Texts in TOML. A literal text stands for itself and a basic one has escapes; either fits on one line
or, between triple quotes, on several. There a line break right behind the opening quotes does not
count, a line break is a line feed however it is written, and up to two quotes may stand in front of
the closing ones.
-/

set_option autoImplicit false
set_option relaxedAutoImplicit false

namespace Pinning.Toml.Scalar

def literalQuote : Char := '\x27'

def basicQuote : Char := '"'

def isBlank (c : Char) : Bool := c == ' ' || c == '\t'

def skipBlanks (cs : List Char) : List Char := cs.dropWhile isBlank

/-- The character may stand for itself: it is a tab or no control character. -/
def isPlain (c : Char) : Bool := c == '\t' || (0x20 ≤ c.toNat && c.toNat != 0x7F)

def afterBreak? : List Char → Option (List Char)
  | '\n' :: rest => some rest
  | '\r' :: '\n' :: rest => some rest
  | _ => none

def skipSpace : List Char → List Char
  | [] => []
  | c :: rest =>
    if isBlank c || (afterBreak? (c :: rest)).isSome then skipSpace rest else c :: rest

theorem length_skipSpace_le (cs : List Char) : (skipSpace cs).length ≤ cs.length := by
  induction cs with
  | nil => simp [skipSpace]
  | cons c rest ih =>
    simp only [skipSpace]
    split
    · exact Nat.le_succ_of_le ih
    · exact Nat.le_refl _

/-- Quotes that end a text on several lines: those that still belong to it, and what follows. -/
def closing? (quote : Char) (cs : List Char) : Option (List Char × List Char) :=
  let run := (cs.takeWhile (· == quote)).length
  if run < 3 then none
  else
    let inside := min (run - 3) 2
    some (List.replicate inside quote, cs.drop (3 + inside))

def literal? : List Char → Option (List Char × List Char)
  | [] => none
  | c :: rest =>
    if c = literalQuote then some ([], rest)
    else if isPlain c then (literal? rest).map fun (text, after) => (c :: text, after)
    else none

def literalLines? : List Char → Option (List Char × List Char)
  | [] => none
  | c :: rest =>
    match closing? literalQuote (c :: rest) with
    | some ending => some ending
    | none =>
      if c = '\r' ∧ rest.head? = some '\n' then literalLines? rest
      else if c = '\n' ∨ isPlain c then
        (literalLines? rest).map fun (text, after) => (c :: text, after)
      else none

def scalar? (n : Nat) : Option Char :=
  if h : n.isValidChar then some (Char.ofNatAux n h) else none

def hexScalar? (digits : List Char) : Option Char := do
  scalar? (Text.ofDigits 16 (← digits.mapM Text.hexValue?))

/-- The character that an escape stands for, and how many characters it has behind the backslash. -/
def escape? : List Char → Option (Char × Nat)
  | 'b' :: _ => some (Char.ofNat 8, 1)
  | 't' :: _ => some ('\t', 1)
  | 'n' :: _ => some ('\n', 1)
  | 'f' :: _ => some (Char.ofNat 12, 1)
  | 'r' :: _ => some ('\r', 1)
  | '"' :: _ => some ('"', 1)
  | '\\' :: _ => some ('\\', 1)
  | 'u' :: rest => if rest.length < 4 then none else (hexScalar? (rest.take 4)).map (·, 5)
  | 'U' :: rest => if rest.length < 8 then none else (hexScalar? (rest.take 8)).map (·, 9)
  | _ => none

def basic? (cs : List Char) : Option (List Char × List Char) :=
  match cs with
  | [] => none
  | c :: rest =>
    if c = basicQuote then some ([], rest)
    else if c = '\\' then
      match escape? rest with
      | none => none
      | some (escaped, count) =>
        (basic? (rest.drop count)).map fun (text, after) => (escaped :: text, after)
    else if isPlain c then (basic? rest).map fun (text, after) => (c :: text, after)
    else none
  termination_by cs.length
  decreasing_by all_goals simp only [List.length_drop, List.length_cons]; omega

def endsLine (cs : List Char) : Bool := (afterBreak? (skipBlanks cs)).isSome

/-- A basic text on several lines behind its quotes, and what follows it. A backslash at the end of
a line removes the line break and all space behind it. -/
def basicLines? (cs : List Char) : Option (List Char × List Char) :=
  match cs with
  | [] => none
  | c :: rest =>
    match closing? basicQuote (c :: rest) with
    | some ending => some ending
    | none =>
      if c = '\\' then
        if endsLine rest then basicLines? (skipSpace rest)
        else match escape? rest with
          | none => none
          | some (escaped, count) =>
            (basicLines? (rest.drop count)).map fun (text, after) => (escaped :: text, after)
      else if c = '\r' ∧ rest.head? = some '\n' then basicLines? rest
      else if c = '\n' ∨ isPlain c then
        (basicLines? rest).map fun (text, after) => (c :: text, after)
      else none
  termination_by cs.length
  decreasing_by
    all_goals
      have := length_skipSpace_le rest
      simp only [List.length_drop, List.length_cons]
      omega

def withoutFirstBreak (cs : List Char) : List Char := (afterBreak? cs).getD cs

def text? : List Char → Option (List Char × List Char)
  | '"' :: '"' :: '"' :: rest => basicLines? (withoutFirstBreak rest)
  | '"' :: rest => basic? rest
  | '\x27' :: '\x27' :: '\x27' :: rest => literalLines? (withoutFirstBreak rest)
  | '\x27' :: rest => literal? rest
  | _ => none

end Pinning.Toml.Scalar
