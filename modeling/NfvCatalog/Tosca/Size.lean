import NfvCatalog.Tosca.Template

/-! # Sizes with units

A size is written as a number and a unit, such as `512 MB` or `1.5GiB`; the letters of a unit may
have either case. A bare number takes the unit that its reader expects. Whole numbers are exact, a
number with a point is multiplied in floating point and rounded up.
-/

namespace NfvCatalog.Tosca

/-- The units of sizes. -/
inductive SizeUnit where
  | b
  | kb
  | kib
  | mb
  | mib
  | gb
  | gib
  | tb
  | tib
deriving DecidableEq, Repr, Inhabited

namespace SizeUnit

/-- The bytes of a unit. -/
def bytes : SizeUnit → Nat
  | .b => 1
  | .kb => 1000
  | .kib => 1024
  | .mb => 1000000
  | .mib => 1024 * 1024
  | .gb => 1000000000
  | .gib => 1024 * 1024 * 1024
  | .tb => 1000000000000
  | .tib => 1024 * 1024 * 1024 * 1024

/-- The name of a unit in lower case. -/
def lowerName : SizeUnit → String
  | .b => "b"
  | .kb => "kb"
  | .kib => "kib"
  | .mb => "mb"
  | .mib => "mib"
  | .gb => "gb"
  | .gib => "gib"
  | .tb => "tb"
  | .tib => "tib"

/-- All units. -/
def all : List SizeUnit := [.b, .kb, .kib, .mb, .mib, .gb, .gib, .tb, .tib]

/-- The unit with a name, in any letter case. -/
def ofName? (name : String) : Option SizeUnit :=
  all.find? fun unit => unit.lowerName = Text.asciiLower name

end SizeUnit

/-- Whether a character belongs to the number of a size. -/
def isSizeDigit (c : Char) : Bool := c.isDigit || c = '.'

/-- The bytes of a number that is not whole, rounded up; a product that is too large is the greatest
word. -/
def fractionalBytes? (number : String) (unit : SizeUnit) : Option UInt64 :=
  match Binary64.ofText? number with
  | none => none
  | some x =>
    if x.isFinite then
      match (x.mul (Binary64.ofNat unit.bytes)).ceil? with
      | some n => some (UInt64.ofNat (min n (UInt64.size - 1)))
      | none => some (UInt64.ofNat (UInt64.size - 1))
    else none

/-- The bytes of a number in a unit. -/
def numberBytes? (number : String) (unit : SizeUnit) : Option UInt64 :=
  match Digits.word? number with
  | some whole =>
    let product := whole.toNat * unit.bytes
    if product < UInt64.size then some (UInt64.ofNat product) else none
  | none => fractionalBytes? number unit

/-- The bytes of a size. -/
def parseSize? (text : String) (defaultUnit : SizeUnit) : Option UInt64 :=
  let trimmed := Text.trimChars text.toList
  let number := String.ofList (trimmed.takeWhile isSizeDigit)
  let suffix := Text.trimChars (trimmed.dropWhile isSizeDigit)
  if suffix.isEmpty then numberBytes? number defaultUnit
  else
    match SizeUnit.ofName? (String.ofList suffix) with
    | some unit => numberBytes? number unit
    | none => none

/-- Read a size. -/
def parseSize (text : String) (defaultUnit : SizeUnit) : Except TemplateError UInt64 :=
  match parseSize? text defaultUnit with
  | some bytes => .ok bytes
  | none => .error (.invalidSize text)

/-- Read a size from a text or a number. -/
def parseSizeValue (value : Value) (defaultUnit : SizeUnit) : Except TemplateError UInt64 :=
  match value with
  | .string s => parseSize s defaultUnit
  | .number n => parseSize n.yamlText defaultUnit
  | other => .error (.invalidSize other.describe)

/-- Bytes in a unit, rounded up. -/
def bytesTo (bytes : UInt64) (unit : SizeUnit) : UInt64 :=
  UInt64.ofNat ((bytes.toNat + (unit.bytes - 1)) / unit.bytes)

/-- A size in megabytes. -/
def formatMb (n : UInt64) : String := toString n ++ " MB"

/-- A size in gigabytes. -/
def formatGb (n : UInt64) : String := toString n ++ " GB"

end NfvCatalog.Tosca
