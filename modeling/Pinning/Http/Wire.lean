import Pinning.Http.Exchange
import Pinning.Text.Blank
import Pinning.Text.Split
/-!
Requests and responses as they are sent, by version 1.1 of the protocol. A request closes its
connection, so a response ends where its head says, or else where the connection does.
-/

set_option autoImplicit false
set_option relaxedAutoImplicit false

namespace Pinning.Http.Wire

def requestLine (url : Url) : String :=
  "GET " ++ url.path.render ++ url.query.elim "" ("?" ++ ·) ++ " HTTP/1.1"

def hostOf (url : Url) : String :=
  (url.authority.map fun a => { a with credentials := {} : Url.Authority }.render).getD ""

def headerLine (name : String) (value : Option String) : List String :=
  (value.map fun value => name ++ ": " ++ value).toList

def requestLines (r : Request) : List String :=
  [requestLine r.url, "Host: " ++ hostOf r.url, "Accept: " ++ r.accept]
    ++ headerLine "User-Agent" r.userAgent ++ headerLine "Authorization" r.authorization
    ++ ["Connection: close"]

def requestBytes (r : Request) : List UInt8 :=
  Text.utf8Bytes (String.join ((requestLines r).map (· ++ "\r\n")) ++ "\r\n").toList

def cutLine? : List UInt8 → Option (List UInt8 × List UInt8)
  | [] => none
  | b :: rest =>
    if b = 10 then some ([], rest)
    else (cutLine? rest).map fun (line, after) => (if b = 13 then line else b :: line, after)

theorem length_of_cutLine? {bs line rest : List UInt8} (h : cutLine? bs = some (line, rest)) :
    rest.length < bs.length := by
  induction bs generalizing line with
  | nil => simp [cutLine?] at h
  | cons b bs ih =>
    simp only [cutLine?] at h
    split at h
    · obtain ⟨-, rfl⟩ := by simpa using h
      simp
    · obtain ⟨⟨l, r⟩, hcut, heq⟩ := Option.map_eq_some_iff.1 h
      obtain ⟨-, rfl⟩ := by simpa using heq
      exact Nat.lt_succ_of_lt (ih hcut)

def header? (line : List Char) : Option (List Char × List Char) :=
  (Text.cutFirst? ':' line).map fun (name, value) => (name.map Char.toLower, Text.trim value)

def headers? (bs : List UInt8) : Option (List (List Char × List Char) × List UInt8) :=
  match h : cutLine? bs with
  | none => none
  | some (line, rest) =>
    have := length_of_cutLine? h
    if line.isEmpty then some ([], rest)
    else do
      let header ← header? (Text.decodeLossy line)
      let (more, after) ← headers? rest
      some (header :: more, after)
  termination_by bs.length

def status? (line : List Char) : Option Nat := do
  let (version, rest) ← Text.cutFirst? ' ' line
  let digits := rest.take 3
  if version.take 7 = "HTTP/1.".toList ∧ digits.length = 3 ∧ digits.all Text.isDigit then
    some (Text.decimalValue digits)
  else none

def chunkLength? (line : List Char) : Option Nat :=
  let digits := line.takeWhile Text.isHexDigit
  if digits.isEmpty then none else some (Text.ofDigits 16 (digits.filterMap Text.hexValue?))

def chunked (bs : List UInt8) : Body :=
  match h : cutLine? bs with
  | none => { bytes := [], complete := false }
  | some (line, rest) =>
    have := length_of_cutLine? h
    match chunkLength? (Text.decodeLossy line) with
    | none => { bytes := [], complete := false }
    | some 0 => {}
    | some length =>
      if rest.length < length + 2 then { bytes := rest.take length, complete := false }
      else
        let more := chunked (rest.drop (length + 2))
        { more with bytes := rest.take length ++ more.bytes }
  termination_by bs.length
  decreasing_by
    simp only [List.length_drop]
    omega

def bodyOf (headers : List (List Char × List Char)) (bs : List UInt8) : Body :=
  if headers.lookup "transfer-encoding".toList = some "chunked".toList then chunked bs
  else match headers.lookup "content-length".toList with
    | some digits =>
      let length := Text.decimalValue digits
      { bytes := bs.take length, complete := length ≤ bs.length }
    | none => { bytes := bs }

def replyOf (bs : List UInt8) : Reply :=
  let response := do
    let (line, rest) ← cutLine? bs
    let status ← status? (Text.decodeLossy line)
    let (headers, rest) ← headers? rest
    some { status, body := bodyOf headers rest : Response }
  match response with
  | some r => .response r
  | none => .broken

end Pinning.Http.Wire
