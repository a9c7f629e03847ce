/-! # Digits in a radix

Reading natural numbers from digits, and the two sign rules for whole numbers in text.
-/

namespace NfvCatalog.Digits

/-- The value of a digit in any radix up to 36. -/
def digit? (c : Char) : Option Nat :=
  if '0' ≤ c ∧ c ≤ '9' then some (c.toNat - '0'.toNat)
  else if 'a' ≤ c ∧ c ≤ 'z' then some (c.toNat - 'a'.toNat + 10)
  else if 'A' ≤ c ∧ c ≤ 'Z' then some (c.toNat - 'A'.toNat + 10)
  else none

/-- Continue reading digits onto a number already read. -/
def append? (radix : Nat) : Nat → List Char → Option Nat
  | value, [] => some value
  | value, c :: rest =>
    match digit? c with
    | some d => if d < radix then append? radix (value * radix + d) rest else none
    | none => none

/-- A number from at least one digit. -/
def nat? (radix : Nat) : List Char → Option Nat
  | [] => none
  | cs => append? radix 0 cs

/-- A number with an optional plus sign. -/
def unsigned? (radix : Nat) : List Char → Option Nat
  | '+' :: cs => nat? radix cs
  | cs => nat? radix cs

/-- A number with an optional sign. -/
def signed? (radix : Nat) : List Char → Option Int
  | '-' :: cs => (nat? radix cs).map fun n => -(n : Int)
  | cs => (unsigned? radix cs).map fun n => (n : Int)

/-- Whether a whole number fits into 64 bits of which one is its sign. -/
def fitsSigned (n : Int) : Bool := decide (-0x8000000000000000 ≤ n ∧ n < 0x8000000000000000)

/-- A whole number that fits into 64 bits, from decimal text. -/
def word? (text : String) : Option UInt64 :=
  match unsigned? 10 text.toList with
  | some n => if n < UInt64.size then some (UInt64.ofNat n) else none
  | none => none

/-- The lower-case hexadecimal digit of a value below sixteen. -/
def hexDigit (n : Nat) : Char :=
  if n < 10 then Char.ofNat ('0'.toNat + n) else Char.ofNat ('a'.toNat + (n - 10))

/-- A number in hexadecimal with at least the given count of digits. -/
def hexPadded (width n : Nat) : String :=
  let digits := Nat.toDigits 16 n
  String.ofList (List.replicate (width - digits.length) '0' ++ digits)

/-- A number in decimal with at least the given count of digits. -/
def padded (width n : Nat) : String :=
  let digits := Nat.toDigits 10 n
  String.ofList (List.replicate (width - digits.length) '0' ++ digits)

end NfvCatalog.Digits
