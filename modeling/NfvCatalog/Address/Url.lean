import NfvCatalog.Address.Host

/-! # Addresses of servers

An address is read in the parts of a uniform locator and printed in its normal form: scheme and
domain in lower case, no default port, no dot segments, unusual characters escaped.
-/

namespace NfvCatalog

/-- The path of an address: segments below a root, or a text without structure. -/
inductive UrlPath where
  | segments (names : List String)
  | plain (text : String)
deriving DecidableEq, Repr, Inhabited

/-- An address. -/
structure Url where
  scheme : String
  credentials : String := ""
  host : Option Host := none
  port : Option Nat := none
  path : UrlPath := .segments []
  query : Option String := none
  anchor : Option String := none
deriving DecidableEq, Repr, Inhabited

namespace Url

/-! ## Escapes -/

/-- The escape of a byte. -/
def escapeByte (byte : UInt8) : List Char :=
  '%' :: ((Digits.hexPadded 2 byte.toNat).toList.map Char.toUpper)

/-- A text in which the characters of a set, control characters and all beyond ASCII are escaped. -/
def escape (special : String) (text : List Char) : String :=
  String.ofList (text.flatMap fun c =>
    if c.toNat < 0x20 ∨ 0x7F ≤ c.toNat ∨ special.toList.contains c then
      (Utf8.encode (String.singleton c)).flatMap escapeByte
    else [c])

/-- The characters escaped in a path. -/
def pathSpecial : String := " \"<>`#?\x7b\x7d"

/-- The characters escaped in names of users and passwords. -/
def userSpecial : String := pathSpecial ++ "/:;=@[\\]^|"

/-- The characters escaped in a query. -/
def querySpecial (known : Bool) : String := if known then " \"#<>'" else " \"#<>"

/-- The characters escaped behind a number sign. -/
def anchorSpecial : String := " \"<>`"

/-! ## Reading -/

/-- The port that a scheme has by itself. -/
def defaultPort? (scheme : String) : Option Nat :=
  match scheme with
  | "http" | "ws" => some 80
  | "https" | "wss" => some 443
  | "ftp" => some 21
  | _ => none

/-- Whether a scheme is one of those with rules of their own. -/
def isKnown (scheme : String) : Bool := (defaultPort? scheme).isSome || scheme = "file"

/-- Whether a character ends the part of an address that names the server. -/
def endsAuthority (known : Bool) (c : Char) : Bool :=
  c = '/' || c = '?' || c = '#' || (known && c = '\\')

/-- The scheme of an address and the text after its colon. -/
def scheme? (cs : List Char) : Option (String × List Char) :=
  let name := cs.takeWhile fun c => c.isAlphanum || c = '+' || c = '-' || c = '.'
  match name.head?, cs.drop name.length with
  | some first, ':' :: rest =>
    if first.isAlpha then some (String.ofList (name.map Char.toLower), rest) else none
  | _, _ => none

/-- The text before the last at sign and the text after it. -/
def cutAtSign (cs : List Char) : Option (List Char) × List Char :=
  let host := (cs.reverse.takeWhile (· ≠ '@')).reverse
  if host.length = cs.length then (none, cs)
  else (some (cs.take (cs.length - host.length - 1)), host)

/-- User and password in their normal form, with the at sign. -/
def credentialsText (text : List Char) : String :=
  let user := text.takeWhile (· ≠ ':')
  let password := (text.drop user.length).drop 1
  if user.isEmpty ∧ password.isEmpty then ""
  else
    escape userSpecial user ++
      (if password.isEmpty then "" else ":" ++ escape userSpecial password) ++ "@"

/-- The host and the port of a server's part. A colon inside brackets belongs to the host. -/
def cutAtPort (cs : List Char) : List Char × Option (List Char) :=
  let rec go (inside : Bool) : List Char → List Char × Option (List Char)
    | [] => ([], none)
    | c :: rest =>
      if c = ':' ∧ ¬ inside then ([], some rest)
      else
        let (host, port) := go (c = '[' || (inside && c ≠ ']')) rest
        (c :: host, port)
  go false cs

/-- The number of a port, and the text from a backslash on. No digits mean none, and so does the
scheme's own port. -/
def readPort (scheme : String) (cs : List Char) : Except UrlError (Option Nat × List Char) :=
  let digits := cs.takeWhile (· ≠ '\\')
  let rest := cs.drop digits.length
  if digits.isEmpty then .ok (none, rest)
  else if digits.all Char.isDigit then
    match Digits.nat? 10 digits with
    | some n =>
      if 65535 < n then .error .badPort
      else .ok (if defaultPort? scheme = some n then none else some n, rest)
    | none => .error .badPort
  else .error .badPort

/-- The host of an address whose scheme has no rules of its own. -/
def plainHost (cs : List Char) : Except UrlError Host :=
  if cs.head? = some '[' then Host.bracketed cs
  else if cs.any Host.isForbidden then .error .badDomainCharacter
  else .ok (.domain (escape "" cs))

/-- Whether a segment stands for the current directory. -/
def isDot (segment : String) : Bool :=
  let lower := Text.asciiLower segment
  lower = "." || lower = "%2e"

/-- Whether a segment stands for the directory above. -/
def isDoubleDot (segment : String) : Bool :=
  let lower := Text.asciiLower segment
  lower = ".." || lower = ".%2e" || lower = "%2e." || lower = "%2e%2e"

/-- Whether a text is the letter of a drive with a colon or a bar. -/
def isDrive : List Char → Bool
  | [letter, mark] => letter.isAlpha && (mark = ':' || mark = '|')
  | _ => false

/-- A path under construction: its segments, and whether it names a drive. -/
structure PathSoFar where
  segments : List String := []
  namesDrive : Bool := false
deriving DecidableEq, Repr, Inhabited

/-- The path without its last segment. A drive stays. -/
def PathSoFar.up (soFar : PathSoFar) : PathSoFar :=
  if (soFar.segments.getLast?).any (isDrive ·.toList) then soFar
  else { soFar with segments := soFar.segments.dropLast }

/-- The path with one more segment. A file's path may start with a drive, which is written with a
colon. -/
def PathSoFar.push (isFile : Bool) (soFar : PathSoFar) (segment : String) : PathSoFar :=
  match isFile && soFar.segments.isEmpty && isDrive segment.toList, segment.toList with
  | true, letter :: _ => ⟨[String.ofList [letter, ':']], true⟩
  | _, _ => { soFar with segments := soFar.segments ++ [segment] }

/-- The segments of a path in order, with dot segments resolved. A dot segment at the end leaves an
empty one. -/
def resolveDots (isFile : Bool) (soFar : PathSoFar) : List String → PathSoFar
  | [] => soFar
  | segment :: rest =>
    let isDots := isDot segment || isDoubleDot segment
    let kept := if isDoubleDot segment then soFar.up
      else if isDot segment then soFar else soFar.push isFile segment
    if rest.isEmpty && isDots then { kept with segments := kept.segments ++ [""] }
    else resolveDots isFile kept rest

/-- The path of some segments. A file's path starts with no empty segment but a last one. -/
def resolved (isFile : Bool) (segments : List String) : PathSoFar :=
  let path := resolveDots isFile {} segments
  if isFile then
    let segments := path.segments.dropWhile (· = "")
    { path with segments := if segments.isEmpty then [""] else segments }
  else path

/-- The segments of a path text behind its first slash. -/
def segmentsOf (known : Bool) (cs : List Char) : List String :=
  let slashes := cs.map fun c => if known && c = '\\' then '/' else c
  (Text.splitChars '/' slashes).map (escape pathSpecial)

/-- Cut a text at the first of a character. -/
def cutAt (mark : Char) (cs : List Char) : List Char × Option (List Char) :=
  let before := cs.takeWhile (· ≠ mark)
  match cs.drop before.length with
  | _ :: rest => (before, some rest)
  | [] => (before, none)

/-- The text of a path behind its first slash. -/
def behindSlash (known : Bool) (cs : List Char) : List Char :=
  match cs with
  | '/' :: rest => rest
  | '\\' :: rest => if known then rest else cs
  | _ => cs

/-- The path after the server's part. Only in a scheme with rules of its own there always is one. -/
def rootedPath (known : Bool) (cs : List Char) : UrlPath :=
  if cs.isEmpty ∧ ¬ known then .segments []
  else .segments (resolved false (segmentsOf known (behindSlash known cs))).segments

/-- An address with a server: credentials, host, port and path. An at sign before nothing is
refused, but at the very end. -/
def withServer (scheme : String) (atEnd : Bool) (cs : List Char) : Except UrlError Url := do
  let known := isKnown scheme
  let authority := cs.takeWhile fun c => !endsAuthority known c
  let tail := cs.drop authority.length
  let (user, server) := cutAtSign authority
  let (host, portText) := cutAtPort server
  let credentials := credentialsText (user.getD [])
  if user = some [] ∧ server.isEmpty ∧ ¬ (tail.isEmpty ∧ atEnd) then throw .emptyHost
  if host.isEmpty ∧ (known ∨ portText.isSome ∨ credentials ≠ "") then throw .emptyHost
  let host ← if known then Host.parse host else plainHost host
  let (port, rest) ← readPort scheme (portText.getD [])
  let path := rootedPath known (rest ++ tail)
  return { scheme, credentials, host := some host, port, path }

/-- The address of a file. A drive in place of the host starts the path, and a path with a drive has
no host. Where no host is named between its slashes, the slash of the path is read as behind a name,
so no drive starts the path. -/
def ofFile (cs : List Char) : Except UrlError Url := do
  let scheme := "file"
  let isSlash (c : Char) : Bool := c = '/' || c = '\\'
  let path (host : Option Host) (cs : List Char) : Url :=
    let path := resolved true (segmentsOf true cs)
    { scheme, host := if path.namesDrive then none else host, path := .segments path.segments }
  match cs with
  | first :: second :: rest =>
    if isSlash first && isSlash second then
      let host := rest.takeWhile (!isSlash ·)
      let after := rest.drop host.length
      if isDrive host then return path none rest
      if host.isEmpty then return path none after
      let host ← Host.parse host
      if host = .domain "localhost" then return path none after
      return path (some host) (behindSlash true after)
    else return path none (behindSlash true cs)
  | _ => return path none (behindSlash true cs)

/-- Whether a character is dropped wherever it stands. -/
def isDropped (c : Char) : Bool := c = '\t' || c = '\n' || c = '\r'

/-- Whether a character is dropped at the ends of an address. -/
def isTrimmed (c : Char) : Bool := c.toNat ≤ 0x20

/-- The text of an address without the characters that do not count. -/
def cleaned (text : String) : List Char :=
  let cs := text.toList.dropWhile isTrimmed
  ((cs.reverse.dropWhile isTrimmed).reverse).filter (!isDropped ·)

/-- Read an address without its query and anchor, from its scheme and the text behind it. -/
def ofParts (scheme : String) (atEnd : Bool) (rest : List Char) : Except UrlError Url :=
  let isSlash (c : Char) : Bool := c = '/' || c = '\\'
  if scheme = "file" then ofFile rest
  else if isKnown scheme then withServer scheme atEnd (rest.dropWhile isSlash)
  else match rest with
    | '/' :: '/' :: server => withServer scheme atEnd server
    | '/' :: _ => .ok { scheme, path := rootedPath false rest }
    | _ => .ok { scheme, path := .plain (escape "" rest) }

/-- Read an address. -/
def parse (text : String) : Except UrlError Url := do
  match scheme? (cleaned text) with
  | none => throw .noScheme
  | some (scheme, rest) =>
    let (rest, anchor) := cutAt '#' rest
    let (rest, query) := cutAt '?' rest
    let url ← ofParts scheme (query.isNone && anchor.isNone) rest
    return { url with
      query := query.map (escape (querySpecial (isKnown scheme)))
      anchor := anchor.map (escape anchorSpecial) }

/-! ## Printing -/

/-- The text of a path. -/
def pathText : UrlPath → String
  | .segments names => String.join (names.map ("/" ++ ·))
  | .plain text => text

/-- What keeps a path without a server apart from a server: a path that starts with an empty segment
is led by a dot segment. -/
def pathGuard (url : Url) : String :=
  match url.host, url.path with
  | none, .segments ("" :: _ :: _) => if url.scheme = "file" then "" else "/."
  | _, _ => ""

/-- The normal form of an address. -/
def text (url : Url) : String :=
  let server := match url.host with
    | some host =>
      "//" ++ url.credentials ++ host.text ++ (url.port.map fun n => ":" ++ toString n).getD ""
    | none => if url.scheme = "file" then "//" else ""
  url.scheme ++ ":" ++ server ++ url.pathGuard ++ pathText url.path ++
    (url.query.map ("?" ++ ·)).getD "" ++ (url.anchor.map ("#" ++ ·)).getD ""

/-- The address with a path that ends in a slash, below which other paths are found. The path is
resolved again, with its first slash read as the parts of a file's address without a host are; a
slash alone without structure is escaped. -/
def asDirectory (url : Url) : Url :=
  match url.path with
  | .segments names =>
    if names.getLast? = some "" then url
    else
      let isFile := url.scheme = "file"
      let segments := if isFile ∧ url.host.isNone then "" :: names else names
      { url with path := .segments (resolved isFile (segments ++ [""])).segments }
  | .plain text =>
    if text.isEmpty then { url with path := .plain "%2F" }
    else if Text.endsWith text "/" then url
    else { url with path := .plain (text ++ "/") }

/-- The address of a path below a directory. -/
def below (url : Url) (path : String) : Url :=
  match url.path with
  | .segments names =>
    { url with
      path := .segments (names.dropLast ++ Text.split '/' path)
      query := none
      anchor := none }
  | .plain _ => url

end Url

end NfvCatalog
