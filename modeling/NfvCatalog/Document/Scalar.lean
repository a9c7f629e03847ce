import NfvCatalog.Document.Value

/-! # Unquoted scalars

An unquoted scalar of a YAML document has no kind of its own: it is a text that may also be read as
a null, a truth value or a number. The rules here are those of the core schema of YAML 1.2, with
binary numbers added, and a number with leading zeros is no number.
-/

namespace NfvCatalog.Scalar

/-- The written words for null. The empty scalar is handled where it matters. -/
def isNullWord (source : String) : Bool :=
  source = "null" || source = "Null" || source = "NULL" || source = "~"

/-- Whether a scalar stands for no value: empty, or a word for null. -/
def isUnset (source : String) : Bool := source.isEmpty || isNullWord source

/-- The truth value that a scalar spells. -/
def bool? (source : String) : Option Bool :=
  if source = "true" ∨ source = "True" ∨ source = "TRUE" then some true
  else if source = "false" ∨ source = "False" ∨ source = "FALSE" then some false
  else none

/-- Whether a list starts with a sign. -/
def signed : List Char → Bool
  | '+' :: _ | '-' :: _ => true
  | _ => false

/-- Digits with a leading zero, such as `017`: they read as text. -/
def isZeroPadded (cs : List Char) : Bool :=
  let digits := match cs with
    | '+' :: rest | '-' :: rest => rest
    | _ => cs
  match digits with
  | '0' :: d :: rest => (d :: rest).all Char.isDigit
  | _ => false

/-- The natural number that a scalar spells, in decimal or after `0x`, `0o` or `0b`. -/
def natural? (source : String) : Option Nat :=
  let cs := source.toList
  let body := match cs with
    | '+' :: rest => rest
    | _ => cs
  let decimal := if signed body || isZeroPadded cs then none else Digits.nat? 10 body
  let inRadix (radix : Nat) (rest : List Char) : Option Nat :=
    if signed rest then none
    else match Digits.nat? radix rest with
      | some n => some n
      | none => decimal
  match body with
  | '0' :: 'x' :: rest => inRadix 16 rest
  | '0' :: 'o' :: rest => inRadix 8 rest
  | '0' :: 'b' :: rest => inRadix 2 rest
  | _ => decimal

/-- The magnitude of the negative number that a scalar spells. -/
def negated? (source : String) : Option Nat :=
  let cs := source.toList
  match cs with
  | '-' :: '0' :: 'x' :: rest => Digits.nat? 16 rest
  | '-' :: '0' :: 'o' :: rest => Digits.nat? 8 rest
  | '-' :: '0' :: 'b' :: rest => Digits.nat? 2 rest
  | '-' :: rest => if isZeroPadded cs then none else Digits.nat? 10 rest
  | _ => none

/-- The floating-point number that a scalar spells. A finite text too large for the format is not
one. -/
def float? (source : String) : Option Binary64 :=
  if source = ".inf" ∨ source = ".Inf" ∨ source = ".INF" ∨ source = "+.inf" ∨ source = "+.Inf" ∨
      source = "+.INF" then some (.infinite false)
  else if source = "-.inf" ∨ source = "-.Inf" ∨ source = "-.INF" then some (.infinite true)
  else if source = ".nan" ∨ source = ".NaN" ∨ source = ".NAN" then some .nan
  else match Binary64.ofText? source with
    | some x => if x.isFinite then some x else none
    | none => none

/-- The whole number that a scalar spells, by the number of bits it needs. A spelled number beyond
64 but within 128 bits is refused, a still larger one is no whole number. -/
inductive Whole where
  | fits (value : Int)
  | tooLarge
  | absent
deriving DecidableEq, Repr

/-- Read a scalar as a whole number. -/
def whole (source : String) : Whole :=
  match natural? source, negated? source with
  | some n, _ =>
    if n < UInt64.size then .fits n
    else if n < UInt64.size * UInt64.size then .tooLarge
    else .absent
  | none, some n =>
    if Digits.fitsSigned (-(n : Int)) then .fits (-(n : Int))
    else if 2 * n ≤ UInt64.size * UInt64.size then .tooLarge
    else .absent
  | none, none => .absent

/-- The floating-point number or the text that a scalar spells when it spells nothing else. -/
def floatOrText (source : String) : Value :=
  if isZeroPadded source.toList then .string source
  else match float? source with
    | some x => .number (.float x)
    | none => .string source

/-- The value of an unquoted scalar where nothing tells which kind is wanted. -/
def resolve (source : String) : Except Fault Value :=
  if isUnset source then .ok .null
  else match bool? source with
    | some b => .ok (.bool b)
    | none =>
      match whole source with
      | .fits n => .ok (.number (.int n))
      | .tooLarge => .error (.expected "an integer of at most 64 bits")
      | .absent => .ok (floatOrText source)

end NfvCatalog.Scalar
