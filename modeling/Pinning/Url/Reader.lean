import Pinning.Url
import Pinning.Url.Error
import Pinning.Url.Host.Domain
/-!
Reading URLs, absolute ones and references relative to a base. A text is cut into its components
first: the fragment behind the first `#`, the query behind the first `?` before it, then the scheme,
and, by the rules of the scheme, authority and path. A backslash is a slash in special schemes, dot
segments are resolved, and tabs and line breaks do not count.
-/

set_option autoImplicit false
set_option relaxedAutoImplicit false

namespace Pinning.Url.Reader

structure Parts where
  main : List Char
  query : Option (List Char)
  fragment : Option (List Char)

def isEdge (c : Char) : Bool := c.toNat ≤ 0x20

/-- The text without the controls and spaces around it and without tabs and line breaks inside. -/
def clean (cs : List Char) : List Char :=
  (((cs.dropWhile isEdge).reverse.dropWhile isEdge).reverse).filter
    fun c => c != '\t' && c != '\n' && c != '\r'

def cut (cs : List Char) : Parts :=
  let (rest, fragment) := match Text.cutFirst? '#' cs with
    | some (before, behind) => (before, some behind)
    | none => (cs, none)
  match Text.cutFirst? '?' rest with
  | some (main, query) => { main, query := some query, fragment }
  | none => { main := rest, query := none, fragment }

def isSchemeChar (c : Char) : Bool := c.isAlphanum || c == '+' || c == '-' || c == '.'

def scheme? (cs : List Char) : Option (String × List Char) := do
  let (before, behind) ← Text.cutFirst? ':' cs
  match before with
  | first :: _ =>
    if first.isAlpha && before.all isSchemeChar then
      some (String.ofList (before.map Char.toLower), behind)
    else none
  | [] => none

def isSlash (special : Bool) (c : Char) : Bool := c == '/' || (special && c == '\\')

def pieces (special : Bool) : List Char → List (List Char)
  | [] => [[]]
  | c :: rest =>
    if isSlash special c then [] :: pieces special rest
    else match pieces special rest with
      | [] => [[c]]
      | first :: more => (c :: first) :: more

/-- A dot, plain or encoded, at the beginning of a segment, and what follows it. -/
def dot? : List Char → Option (List Char)
  | '.' :: rest => some rest
  | '%' :: '2' :: 'e' :: rest => some rest
  | '%' :: '2' :: 'E' :: rest => some rest
  | _ => none

def isSingleDot (cs : List Char) : Bool := dot? cs == some []

def isDoubleDot (cs : List Char) : Bool := (dot? cs).bind dot? == some []

def isDrive : List Char → Bool
  | [letter, mark] => letter.isAlpha && (mark == ':' || mark == '|')
  | _ => false

def isNormalDrive : List Char → Bool
  | [letter, mark] => letter.isAlpha && mark == ':'
  | _ => false

/-- The segments of a path without the last one. The drive of a file is never left. -/
def leave (isFile : Bool) (done : List String) : List String :=
  match done.getLast? with
  | some last => if isFile && isNormalDrive last.toList then done else done.dropLast
  | none => []

/-- The stored form of a segment. The first one of a file's path may be a drive. -/
def stored (isFile : Bool) (done : List String) (piece : List Char) : String :=
  match piece with
  | [letter, _] =>
    if isFile && isDrive piece && done.all (· == "") then String.ofList [letter, ':']
    else String.ofList (encode pathSet piece)
  | _ => String.ofList (encode pathSet piece)

def walk (isFile : Bool) (done : List String) : List (List Char) → List String
  | [] => done
  | [last] =>
    if isDoubleDot last then leave isFile done ++ [""]
    else if isSingleDot last then done ++ [""]
    else done ++ [stored isFile done last]
  | piece :: rest =>
    if isDoubleDot piece then walk isFile (leave isFile done) rest
    else if isSingleDot piece then walk isFile done rest
    else walk isFile (done ++ [stored isFile done piece]) rest

/-- Segments without empty ones in front; the last segment is always kept. -/
def withoutLeadingEmpty : List String → List String
  | "" :: next :: rest => withoutLeadingEmpty (next :: rest)
  | names => names

/-- The segments that a text behind a slash leads to from the segments already there. -/
def segmentsFrom (scheme : String) (done : List String) (cs : List Char) : List String :=
  let isFile := scheme == "file"
  let names := walk isFile done (pieces (isSpecialScheme scheme) cs)
  if isFile then withoutLeadingEmpty names else names

def behindSlash (special : Bool) : List Char → List Char
  | [] => []
  | c :: rest => if isSlash special c then rest else c :: rest

def rootSegments (scheme : String) (cs : List Char) : List String :=
  if cs.isEmpty && !isSpecialScheme scheme then []
  else segmentsFrom scheme [] (behindSlash (isSpecialScheme scheme) cs)

def specialHost (cs : List Char) : Except Error Host :=
  match cs with
  | '[' :: inner =>
    if inner.getLast? = some ']' then
      match IPv6.parse? inner.dropLast with
      | some groups => .ok (.ipv6 groups)
      | none => .error .invalidIPv6
    else .error .invalidIPv6
  | _ =>
    match (decoded? cs).bind Domain.toAscii? with
    | none => .error .invalidInternationalName
    | some [] => .error .emptyHost
    | some name =>
      if IPv4.endsInNumber name then
        match IPv4.parse? name with
        | some address => .ok (.ipv4 address)
        | none => .error .invalidIPv4
      else .ok (.domain (String.ofList name))

def otherHost (cs : List Char) : Except Error Host :=
  match cs with
  | '[' :: inner =>
    if inner.getLast? = some ']' then
      match IPv6.parse? inner.dropLast with
      | some groups => .ok (.ipv6 groups)
      | none => .error .invalidIPv6
    else .error .invalidIPv6
  | _ =>
    if cs.any fun c => "\x00\t\n\r #/:<>?@[\\]^|".toList.contains c then
      .error .invalidDomainCharacter
    else .ok (.domain (String.ofList (encode [] cs)))

def cutPort (inBrackets : Bool) : List Char → List Char × Option (List Char)
  | [] => ([], none)
  | c :: rest =>
    if c = ':' ∧ !inBrackets then ([], some rest)
    else
      let inside := if c = '[' then true else if c = ']' then false else inBrackets
      let (host, port) := cutPort inside rest
      (c :: host, port)

/-- The port that digits denote; none if there are none or it is the usual one of the scheme. -/
def port (scheme : String) (digits : List Char) : Except Error (Option Nat) :=
  if digits.isEmpty then .ok none
  else
    let value := Text.decimalValue digits
    if 65535 < value then .error .invalidPort
    else if usualPort? scheme = some value then .ok none
    else .ok (some value)

def cutUser (cs : List Char) : Option (List Char) × List Char :=
  match Text.cutLast? '@' cs with
  | some (user, behind) => (some user, behind)
  | none => (none, cs)

/-- The credentials that a text denotes; an empty password is none. -/
def credentials (cs : List Char) : Credentials :=
  match Text.cutFirst? ':' cs with
  | some (user, password) =>
    { user := String.ofList (encode userSet user),
      password :=
        if password.isEmpty then none else some (String.ofList (encode userSet password)) }
  | none => { user := String.ofList (encode userSet cs) }

def withAuthority (scheme : String) (parts : Parts) : Except Error Url := do
  let special := isSpecialScheme scheme
  let text := parts.main.takeWhile fun c => !isSlash special c
  let rest := parts.main.dropWhile fun c => !isSlash special c
  let (user, address) := cutUser text
  let nothingFollows := rest.isEmpty && parts.query.isNone && parts.fragment.isNone
  if user = some [] ∧ address.isEmpty ∧ !nothingFollows then throw .emptyHost
  let creds := (user.map credentials).getD {}
  let (hostText, portText) := cutPort false address
  if special ∧ hostText.isEmpty then throw .emptyHost
  let host ← if special then specialHost hostText else otherHost hostText
  if host.isEmpty ∧ (portText.isSome ∨ !creds.isEmpty) then throw .emptyHost
  let portDigits := (portText.getD []).takeWhile Text.isDigit
  let behindPort := (portText.getD []).dropWhile Text.isDigit
  let portNumber ← port scheme portDigits
  if !behindPort.isEmpty ∧ behindPort.head? ≠ some '\\' then throw .invalidPort
  return {
    scheme, authority := some { credentials := creds, host, port := portNumber },
    path := .segments (rootSegments scheme (behindPort ++ rest)),
    query := none, fragment := none }

def withTail (parts : Parts) (u : Url) : Url :=
  let set := if isSpecialScheme u.scheme then specialQuerySet else querySet
  { u with
    query := parts.query.map fun q => String.ofList (encode set q)
    fragment := parts.fragment.map fun f => String.ofList (encode fragmentSet f) }

def localFile : Authority := { credentials := {}, host := .domain "", port := none }

/-- The URL of a file, read from the text behind the two slashes. A file has no host but `localhost`
if its path begins with a drive. -/
def fileWithHost (main : List Char) : Except Error Url := do
  let text := main.takeWhile fun c => !isSlash true c
  let rest := main.dropWhile fun c => !isSlash true c
  let ofPath (host : Host) (cs : List Char) : Url :=
    let names := rootSegments "file" cs
    let hasDrive := (names.head?.map fun name => isNormalDrive name.toList).getD false
    { scheme := "file"
      authority := some { localFile with host := if hasDrive then .domain "" else host }
      path := .segments names
      query := none
      fragment := none }
  if isDrive text then return ofPath (.domain "") main
  if text.isEmpty then return ofPath (.domain "") rest
  let host ← specialHost text
  return ofPath (if host = .domain "localhost" then .domain "" else host) rest

def segmentsOf (u : Url) : List String :=
  match u.path with
  | .segments names => names
  | .plain _ => []

def startsWithDrive (cs : List Char) : Bool := isDrive (cs.takeWhile fun c => !isSlash true c)

/-- The URL of a file, read from the text behind its scheme, relative to the URL of another file if
there is one. -/
def file (base : Option Url) (parts : Parts) : Except Error Url := do
  let rooted (authority : Authority) (done : List String) (cs : List Char) : Url :=
    { scheme := "file", authority := some authority,
      path := .segments (segmentsFrom "file" done cs), query := none, fragment := none }
  match parts.main with
  | first :: second :: rest =>
    if isSlash true first ∧ isSlash true second then return withTail parts (← fileWithHost rest)
  | _ => pure ()
  match base, parts.main with
  | some base, [] =>
    let query := if parts.query.isSome then none else base.query
    let u := withTail parts { base with query := none }
    return { u with query := u.query.or query }
  | base, main =>
    let authority := (base.bind (·.authority)).getD localFile
    let baseNames := (base.map segmentsOf).getD []
    match main with
    | first :: rest =>
      if isSlash true first then
        if startsWithDrive rest then return withTail parts (rooted localFile [] rest)
        let drive := (baseNames.head?.filter fun name => isNormalDrive name.toList).toList
        return withTail parts (rooted (if drive.isEmpty then authority else localFile) drive rest)
      else if startsWithDrive main then return withTail parts (rooted localFile [] main)
      else return withTail parts (rooted authority (leave true baseNames) main)
    | [] => return withTail parts (rooted localFile [] [])

/-- A reference relative to a base of a scheme other than that of files. -/
def relative (base : Url) (parts : Parts) : Except Error Url := do
  let rooted (done : List String) (cs : List Char) : Url :=
    withTail parts { base with path := .segments (segmentsFrom base.scheme done cs) }
  match parts.main with
  | [] =>
    let u := withTail parts base
    return { u with query := if parts.query.isSome then u.query else base.query }
  | '/' :: '/' :: rest =>
    return withTail parts (← withAuthority base.scheme { parts with main := rest })
  | first :: rest =>
    if isSlash true first then
      if (rest.head?.map (isSlash true)).getD false then
        let behind := rest.dropWhile (isSlash true)
        return withTail parts (← withAuthority base.scheme { parts with main := behind })
      else return rooted [] rest
    else return rooted (segmentsOf base).dropLast parts.main

/-- A URL of a scheme without rules of its own, read from the text behind the scheme. -/
def other (scheme : String) (parts : Parts) : Except Error Url :=
  let ofPath (path : Path) : Url :=
    { scheme, authority := none, path, query := none, fragment := none }
  match parts.main with
  | '/' :: '/' :: rest => (withAuthority scheme { parts with main := rest }).map (withTail parts)
  | '/' :: rest => .ok (withTail parts (ofPath (.segments (segmentsFrom scheme [] rest))))
  | main => .ok (withTail parts (ofPath (.plain (String.ofList (encode [] main)))))

def ofChars (base : Option Url) (written : List Char) : Except Error Url :=
  let whole := cut (clean written)
  match scheme? whole.main with
  | some (scheme, main) =>
    let parts := { whole with main }
    if scheme = "file" then file (base.filter (·.scheme == "file")) parts
    else if isNetworkScheme scheme then
      let slashes := main.takeWhile (isSlash true)
      match base.filter (·.scheme == scheme) with
      | some base =>
        if slashes.length < 2 then relative base parts
        else
          (withAuthority scheme { parts with main := main.drop slashes.length }).map
            (withTail parts)
      | none =>
        (withAuthority scheme { parts with main := main.drop slashes.length }).map (withTail parts)
    else other scheme parts
  | none =>
    match base with
    | none => .error .relativeWithoutBase
    | some base =>
      match base.path with
      | .plain _ =>
        if whole.main.isEmpty ∧ whole.query.isNone ∧ whole.fragment.isSome then
          .ok { withTail whole base with query := base.query }
        else .error .relativeToPathOnly
      | .segments _ => if base.scheme = "file" then file (some base) whole else relative base whole

end Pinning.Url.Reader

namespace Pinning.Url

def parse (written : String) : Except Error Url := Reader.ofChars none written.toList

def join (base : Url) (written : String) : Except Error Url :=
  Reader.ofChars (some base) written.toList

end Pinning.Url
