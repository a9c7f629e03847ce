import NfvCatalog.Number.Digits

/-! # Binary floating-point numbers with 53 bits of precision

A finite number is a sign, a significand below `2 ^ 53` and a power of two. Arithmetic is exact on
ratios of natural numbers and rounded once, to the nearest number and to the even one on a tie, so
each operation here is the correctly rounded one.
-/

namespace NfvCatalog

/-- A floating-point number of the 64-bit interchange format. A finite one is in canonical form:
its exponent is least, or its significand has all 53 bits. -/
inductive Binary64 where
  | finite (negative : Bool) (significand : Nat) (exponent : Int)
  | infinite (negative : Bool)
  | nan
deriving DecidableEq, Repr, Inhabited

namespace Binary64

/-- The exponent of the smallest positive number. -/
def leastExponent : Int := -1074

/-- The exponent of the largest finite number. -/
def greatestExponent : Int := 971

/-- The least significand with all 53 bits. -/
def leastFull : Nat := 0x10000000000000

/-- Zero with a sign. -/
def zero (negative : Bool) : Binary64 := .finite negative 0 leastExponent

/-- Whether a number is zero, of either sign. -/
def isZero (x : Binary64) : Bool := x = zero false || x = zero true

/-- A finite number from a rounded significand, which may have reached `2 ^ 53`. -/
def normalize (negative : Bool) (significand : Nat) (exponent : Int) : Binary64 :=
  let carried := significand = 2 * leastFull
  let significand' := if carried then leastFull else significand
  let exponent' := if carried then exponent + 1 else exponent
  if greatestExponent < exponent' then .infinite negative
  else .finite negative significand' exponent'

/-- A quotient rounded to the nearest whole number, a tie to the even one. -/
def roundQuotient (numerator denominator : Nat) : Nat :=
  let quotient := numerator / denominator
  let twice := 2 * (numerator % denominator)
  if denominator < twice ∨ (twice = denominator ∧ quotient % 2 = 1) then quotient + 1 else quotient

/-- `numerator / denominator` divided by a power of two, as a fraction. -/
def scaleDown (numerator denominator : Nat) (power : Int) : Nat × Nat :=
  if power < 0 then (numerator * Nat.pow 2 power.natAbs, denominator)
  else (numerator, denominator * Nat.pow 2 power.natAbs)

/-- The number nearest to a ratio with a positive denominator. -/
def ofRatio (negative : Bool) (numerator denominator : Nat) : Binary64 :=
  if numerator = 0 then zero negative
  else
    let guess : Int := (numerator.log2 : Int) - denominator.log2 - 52
    let first := scaleDown numerator denominator guess
    let exponent := if first.1 / first.2 < leastFull then guess - 1 else guess
    let exponent := max exponent leastExponent
    let scaled := scaleDown numerator denominator exponent
    normalize negative (roundQuotient scaled.1 scaled.2) exponent

/-- The number nearest to `significand * 2 ^ exponent`. -/
def ofScaled (negative : Bool) (significand : Nat) (exponent : Int) : Binary64 :=
  if exponent < 0 then ofRatio negative significand (Nat.pow 2 exponent.natAbs)
  else ofRatio negative (significand * Nat.pow 2 exponent.natAbs) 1

/-- The number nearest to a natural number. -/
def ofNat (n : Nat) : Binary64 := ofRatio false n 1

/-- The number nearest to `digits * 10 ^ exponent`. Far outside the range of the format the answer
is given without computing the power. -/
def ofDecimal (negative : Bool) (digits : Nat) (exponent : Int) : Binary64 :=
  let size : Int := (Nat.toDigits 10 digits).length + exponent
  if digits = 0 then zero negative
  else if 310 < size then .infinite negative
  else if size < -330 then zero negative
  else if exponent < 0 then ofRatio negative digits (Nat.pow 10 exponent.natAbs)
  else ofRatio negative (digits * Nat.pow 10 exponent.natAbs) 1

/-- Whether the number is neither infinite nor undefined. -/
def isFinite : Binary64 → Bool
  | .finite .. => true
  | _ => false

/-- The number with the other sign. -/
def neg : Binary64 → Binary64
  | .finite negative significand exponent => .finite (!negative) significand exponent
  | .infinite negative => .infinite (!negative)
  | .nan => .nan

/-- The rounded product. -/
def mul : Binary64 → Binary64 → Binary64
  | .finite n s e, .finite n' s' e' => ofScaled (n != n') (s * s') (e + e')
  | .finite n s _, .infinite n' => if s = 0 then .nan else .infinite (n != n')
  | .infinite n, .finite n' s _ => if s = 0 then .nan else .infinite (n != n')
  | .infinite n, .infinite n' => .infinite (n != n')
  | _, _ => .nan

/-- The rounded quotient. -/
def div : Binary64 → Binary64 → Binary64
  | .finite n s e, .finite n' s' e' =>
    if s' = 0 then (if s = 0 then .nan else .infinite (n != n'))
    else
      let power := e - e'
      if power < 0 then ofRatio (n != n') s (s' * Nat.pow 2 power.natAbs)
      else ofRatio (n != n') (s * Nat.pow 2 power.natAbs) s'
  | .finite n _ _, .infinite n' => zero (n != n')
  | .infinite n, .finite n' _ _ => .infinite (n != n')
  | _, _ => .nan

/-- The least natural number that is not below a number; nothing for a negative, infinite or
undefined one. -/
def ceil? : Binary64 → Option Nat
  | .finite negative significand exponent =>
    if negative && significand != 0 then none
    else if exponent < 0 then
      some ((significand + (Nat.pow 2 exponent.natAbs - 1)) / Nat.pow 2 exponent.natAbs)
    else some (significand * Nat.pow 2 exponent.natAbs)
  | _ => none

/-! ## Decimal text -/

/-- The decimal text of a number taken apart: sign, digits without the point, power of ten. -/
structure Parts where
  negative : Bool
  digits : Nat
  exponent : Int
deriving DecidableEq, Repr

/-- The exponent mark and what follows it; no mark means a zero exponent. -/
def exponent? : List Char → Option Int
  | [] => some 0
  | c :: rest => if c = 'e' ∨ c = 'E' then Digits.signed? 10 rest else none

/-- Decimal text without a sign: digits with at most one point, at least one digit, and an optional
exponent. -/
def unsignedParts? (negative : Bool) (cs : List Char) : Option Parts :=
  let whole := cs.takeWhile Char.isDigit
  let rest := cs.dropWhile Char.isDigit
  let (places, rest) := match rest with
    | '.' :: tail => (tail.takeWhile Char.isDigit, tail.dropWhile Char.isDigit)
    | _ => ([], rest)
  match Digits.nat? 10 (whole ++ places), exponent? rest with
  | some digits, some exponent => some ⟨negative, digits, exponent - places.length⟩
  | _, _ => none

/-- Decimal text with an optional sign. -/
def parts? : List Char → Option Parts
  | '-' :: cs => unsignedParts? true cs
  | '+' :: cs => unsignedParts? false cs
  | cs => unsignedParts? false cs

/-- The number nearest to a decimal text. -/
def ofText? (text : String) : Option Binary64 :=
  (parts? text.toList).map fun p => ofDecimal p.negative p.digits p.exponent

/-! ## The shortest decimal that reads back -/

/-- The power of ten of the first digit of a positive ratio. -/
def leadingPower (numerator denominator : Nat) : Int :=
  if denominator ≤ numerator then ((Nat.toDigits 10 (numerator / denominator)).length : Int) - 1
  else
    let width := (Nat.toDigits 10 (denominator / numerator)).length
    if denominator ≤ numerator * Nat.pow 10 (width - 1) then 1 - (width : Int) else -(width : Int)

/-- The reals that round to a positive number, as fractions over one denominator, together with the
number itself. The ends belong to the interval when the significand is even. -/
structure Neighbourhood where
  low : Nat
  value : Nat
  high : Nat
  denominator : Nat
  closed : Bool

/-- The interval of a positive number. Below a power of two the gap to the next smaller number is
half as wide. -/
def neighbourhood (significand : Nat) (exponent : Int) : Neighbourhood :=
  let narrow := significand = leastFull ∧ leastExponent < exponent
  let scale : Nat := if exponent < 0 then 1 else Nat.pow 2 exponent.natAbs
  let denominator : Nat := 4 * (if exponent < 0 then Nat.pow 2 exponent.natAbs else 1)
  { low := (4 * significand - (if narrow then 1 else 2)) * scale
    value := 4 * significand * scale
    high := (4 * significand + 2) * scale
    denominator := denominator
    closed := significand % 2 = 0 }

/-- Whether `digits * 10 ^ power` lies in the interval. -/
def Neighbourhood.holds (n : Neighbourhood) (digits : Nat) (power : Int) : Bool :=
  let up := if power < 0 then 1 else Nat.pow 10 power.natAbs
  let down := if power < 0 then Nat.pow 10 power.natAbs else 1
  let point := digits * up * n.denominator
  if n.closed then n.low * down ≤ point && point ≤ n.high * down
  else n.low * down < point && point < n.high * down

/-- The decimal of the given count of digits that reads back, nearest to the number; a tie goes to
the even last digit. -/
def Neighbourhood.candidate? (n : Neighbourhood) (count : Nat) : Option (Nat × Int) :=
  let power := leadingPower n.value n.denominator - ((count : Int) - 1)
  let up := if power < 0 then 1 else Nat.pow 10 power.natAbs
  let down := if power < 0 then Nat.pow 10 power.natAbs else 1
  let step := up * n.denominator
  let below := n.value * down / step
  let remainder := n.value * down % step
  let lowHit := n.holds below power
  let highHit := n.holds (below + 1) power
  if lowHit && highHit then
    if 2 * remainder < step ∨ (2 * remainder = step ∧ below % 2 = 0) then some (below, power)
    else some (below + 1, power)
  else if lowHit then some (below, power)
  else if highHit then some (below + 1, power)
  else none

/-- Drop zeros at the end of a number's decimal digits, raising the power of ten. -/
def dropZeros : Nat → Nat → Int → Nat × Int
  | 0, digits, power => (digits, power)
  | fuel + 1, digits, power =>
    if digits ≠ 0 ∧ digits % 10 = 0 then dropZeros fuel (digits / 10) (power + 1)
    else (digits, power)

/-- The fewest decimal digits that read back as a positive number, and their power of ten.
Seventeen digits always suffice. -/
def shortest (significand : Nat) (exponent : Int) : Nat × Int :=
  let n := neighbourhood significand exponent
  match (List.range 17).findSome? fun i => n.candidate? (i + 1) with
  | some (digits, power) => dropZeros 20 digits power
  | none => (0, 0)

/-- How a notation writes floating-point numbers. -/
structure TextStyle where
  /-- Whether a positive exponent carries a plus sign. -/
  plusSign : Bool
  infinity : String
  negativeInfinity : String
  undefined : String

/-- Digits with a point somewhere, or with an exponent: positional from `1e-5` up to below `1e16`,
always with a point or an exponent. -/
def digitsText (style : TextStyle) (digits : Nat) (power : Int) : String :=
  let ds := Nat.toDigits 10 digits
  let count : Int := ds.length
  let point := count + power
  if 0 ≤ power ∧ point ≤ 16 then
    String.ofList (ds ++ List.replicate power.natAbs '0' ++ ['.', '0'])
  else if 0 < point ∧ point ≤ 16 then
    String.ofList (ds.take point.natAbs ++ '.' :: ds.drop point.natAbs)
  else if -5 < point ∧ point ≤ 0 then
    String.ofList ('0' :: '.' :: List.replicate point.natAbs '0' ++ ds)
  else
    let exponent := point - 1
    let exponentText :=
      (if exponent < 0 then "-" else if style.plusSign then "+" else "") ++ toString exponent.natAbs
    match ds with
    | [d] => String.ofList [d, 'e'] ++ exponentText
    | d :: rest => String.ofList (d :: '.' :: rest) ++ "e" ++ exponentText
    | [] => ""

/-- The shortest text that reads back as the number. -/
def text (style : TextStyle) : Binary64 → String
  | .finite negative significand exponent =>
    let sign := if negative then "-" else ""
    if significand = 0 then sign ++ "0.0"
    else
      let (digits, power) := shortest significand exponent
      sign ++ digitsText style digits power
  | .infinite negative => if negative then style.negativeInfinity else style.infinity
  | .nan => style.undefined

end Binary64

end NfvCatalog

/-! ## Numbers of a document

A document holds whole numbers of at most 64 bits and floating-point numbers; the two are different
values even when they are equal as reals.
-/

namespace NfvCatalog

/-- A number in a document. -/
inductive Number where
  | int (value : Int)
  | float (value : Binary64)
deriving DecidableEq, Repr, Inhabited

namespace Number

/-- Floating-point numbers in JSON text. Infinite and undefined ones have no JSON form. -/
def jsonStyle : Binary64.TextStyle := ⟨true, "null", "null", "null"⟩

/-- Floating-point numbers in YAML text. -/
def yamlStyle : Binary64.TextStyle := ⟨false, ".inf", "-.inf", ".nan"⟩

/-- The number as JSON text. -/
def jsonText : Number → String
  | .int value => toString value
  | .float value => value.text jsonStyle

/-- The number as YAML text. -/
def yamlText : Number → String
  | .int value => toString value
  | .float value => value.text yamlStyle

/-- The number as a natural number of at most 64 bits. -/
def word? : Number → Option UInt64
  | .int value => if 0 ≤ value ∧ value < UInt64.size then some (UInt64.ofNat value.toNat) else none
  | .float _ => none

end Number

end NfvCatalog
