import NfvCatalog.Address.DomainName
import NfvCatalog.Number.Digits
import NfvCatalog.Text.Utf8

/-! # Hosts of addresses

A host is a domain name or an address of the Internet protocol in either version. Domain names are
kept in ASCII and lower case; addresses are kept as numbers.
-/

namespace NfvCatalog

/-- Why a text is no address. -/
inductive UrlError where
  | emptyHost
  | badDomain
  | badDomainCharacter
  | badPort
  | badIpv4
  | badIpv6
  | noScheme
deriving DecidableEq, Repr, Inhabited

/-- The wording of an address error. -/
def UrlError.message : UrlError → String
  | .emptyHost => "empty host"
  | .badDomain => "invalid international domain name"
  | .badDomainCharacter => "invalid domain character"
  | .badPort => "invalid port number"
  | .badIpv4 => "invalid IPv4 address"
  | .badIpv6 => "invalid IPv6 address"
  | .noScheme => "relative URL without a base"

/-- The host of an address. -/
inductive Host where
  | domain (name : String)
  | ipv4 (address : Nat)
  | ipv6 (pieces : List Nat)
deriving DecidableEq, Repr, Inhabited

namespace Host

/-! ## Version 4 -/

/-- A part of a dotted address: decimal, octal after a zero, or hexadecimal. -/
def part? (text : List Char) : Option Nat :=
  let inRadix (radix : Nat) (digits : List Char) : Option Nat :=
    if digits.isEmpty then some 0 else Digits.nat? radix digits
  match text with
  | [] => none
  | '0' :: 'x' :: rest | '0' :: 'X' :: rest => inRadix 16 rest
  | '0' :: c :: rest => inRadix 8 (c :: rest)
  | _ => inRadix 10 text

/-- The parts of a dotted name; one dot at the end does not count. -/
def dottedParts (name : List Char) : List (List Char) :=
  let parts := Text.splitChars '.' name
  if parts.length > 1 ∧ parts.getLast? = some [] then parts.dropLast else parts

/-- Whether a name ends in a number, so that it can only be an address. -/
def endsInNumber (name : List Char) : Bool :=
  match (dottedParts name).getLast? with
  | some last => (!last.isEmpty && last.all Char.isDigit) || (part? last).isSome
  | none => false

/-- The address of a dotted name. The last part fills all bytes that the others leave. -/
def ipv4? (name : List Char) : Option Nat :=
  let parts := dottedParts name
  match parts.mapM part? with
  | none => none
  | some numbers =>
    let leading := numbers.dropLast
    let last := numbers.getLast?.getD 0
    let bound := Nat.pow 256 (4 - leading.length)
    if 4 < numbers.length ∨ bound ≤ last ∨ leading.any (255 < ·) then none
    else some (leading.foldr (fun n value => n * 0x1000000 + value / 256) 0 + last)

/-- The four bytes of an address. -/
def ipv4Text (address : Nat) : String :=
  Text.join "." ([3, 2, 1, 0].map fun place => toString (address / Nat.pow 256 place % 256))

/-! ## Version 6 -/

/-- Two pieces from a dotted address at the end of an address of version 6. -/
def embedded? (text : List Char) : Option (List Nat) :=
  let byte? (digits : List Char) : Option Nat :=
    match digits with
    | '0' :: _ :: _ => none
    | _ => if digits.all Char.isDigit then (Digits.nat? 10 digits).filter (· < 256) else none
  match (Text.splitChars '.' text).mapM byte? with
  | some [a, b, c, d] => some [a * 256 + b, c * 256 + d]
  | _ => none

/-- A piece of at most four hexadecimal digits. -/
def piece? (text : List Char) : Option Nat :=
  if text.length ≤ 4 then Digits.nat? 16 text else none

/-- The pieces between colons. A dotted address may stand for the last two. -/
def pieces? (mayEmbed : Bool) : List (List Char) → Option (List Nat)
  | [] => some []
  | [last] =>
    if mayEmbed && last.contains '.' then embedded? last else (piece? last).map ([·])
  | first :: rest => do return (← piece? first) :: (← pieces? mayEmbed rest)

/-- Cut a text at its first pair of colons. -/
def cutAtGap : List Char → List Char × Option (List Char)
  | [] => ([], none)
  | ':' :: ':' :: rest => ([], some rest)
  | c :: rest =>
    let (before, after) := cutAtGap rest
    (c :: before, after)

/-- The eight pieces of an address; a pair of colons stands for at least one zero piece. -/
def ipv6? (text : List Char) : Option (List Nat) := do
  let side (mayEmbed : Bool) (text : List Char) : Option (List Nat) :=
    if text.isEmpty then some [] else pieces? mayEmbed (Text.splitChars ':' text)
  match cutAtGap text with
  | (whole, none) =>
    let pieces ← side true whole
    if pieces.length = 8 then return pieces else none
  | (left, some right) =>
    let left ← side false left
    let right ← side true right
    if left.length + right.length < 8 then
      return left ++ List.replicate (8 - left.length - right.length) 0 ++ right
    else none

/-- The length of the run of zero pieces at the start of a list. -/
def zeroRun (pieces : List Nat) : Nat := (pieces.takeWhile (· = 0)).length

/-- Where the first of the longest runs of zero pieces starts, if it has more than one. -/
def gap? (pieces : List Nat) : Option (Nat × Nat) :=
  let runs := (List.range pieces.length).map fun start => (start, zeroRun (pieces.drop start))
  let longest := runs.foldl (fun best run => if best.2 < run.2 then run else best) (0, 0)
  if 1 < longest.2 then some longest else none

/-- The text of an address of version 6, its longest run of zeros left out. -/
def ipv6Text (pieces : List Nat) : String :=
  let text (pieces : List Nat) : String :=
    Text.join ":" (pieces.map fun piece => String.ofList (Nat.toDigits 16 piece))
  match gap? pieces with
  | some (start, length) => text (pieces.take start) ++ "::" ++ text (pieces.drop (start + length))
  | none => text pieces

/-! ## Names -/

/-- A character that a name of a scheme without rules of its own may not hold. -/
def isForbidden (c : Char) : Bool :=
  c.toNat = 0 || "\t\n\r #/:<>?@[\\]^|".toList.contains c

/-- The bytes of a text in which a percent sign and two digits stand for a byte. -/
def percentDecoded : List UInt8 → List UInt8
  | 0x25 :: a :: b :: rest =>
    match Digits.nat? 16 [Char.ofNat a.toNat, Char.ofNat b.toNat] with
    | some byte => UInt8.ofNat byte :: percentDecoded rest
    | none => 0x25 :: percentDecoded (a :: b :: rest)
  | byte :: rest => byte :: percentDecoded rest
  | [] => []

/-- A host in brackets. -/
def bracketed (text : List Char) : Except UrlError Host :=
  match text.getLast?, ipv6? (text.drop 1).dropLast with
  | some ']', some pieces => .ok (.ipv6 pieces)
  | _, _ => .error .badIpv6

/-- The host of an address with a well-known scheme. -/
def parse (text : List Char) : Except UrlError Host := do
  if text.head? = some '[' then return ← bracketed text
  let decoded := Utf8.lossy (percentDecoded (Utf8.encode (String.ofList text)))
  let name ← match Address.DomainName.ascii? decoded.toList with
    | some name => pure name
    | none => throw .badDomain
  if name.isEmpty then throw .emptyHost
  if endsInNumber name then
    match ipv4? name with
    | some address => return .ipv4 address
    | none => throw .badIpv4
  return .domain (String.ofList name)

/-- The text of a host. -/
def text : Host → String
  | .domain name => name
  | .ipv4 address => ipv4Text address
  | .ipv6 pieces => "[" ++ ipv6Text pieces ++ "]"

end Host

end NfvCatalog
