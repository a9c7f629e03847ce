import NfvCatalog.Number.Binary64

/-! # Floating-point numbers with a given number of places

The texts of a positive or zero number with so many digits behind the point, with an exponent, or in
the shorter of the two ways. The exact value is rounded once, a tie to the even last digit.
-/

namespace NfvCatalog.Places

/-- The exact value of a finite number without its sign, as a ratio. -/
def ratio (significand : Nat) (exponent : Int) : Nat × Nat :=
  if exponent < 0 then (significand, Nat.pow 2 exponent.natAbs)
  else (significand * Nat.pow 2 exponent.natAbs, 1)

/-- Digits with a point before the last so many; `keepsPoint` keeps the point before none. -/
def pointed (keepsPoint : Bool) (places : Nat) (digits : List Char) : List Char :=
  let digits := List.replicate (places + 1 - digits.length) '0' ++ digits
  let whole := digits.take (digits.length - places)
  if places = 0 then whole ++ (if keepsPoint then ['.'] else [])
  else whole ++ '.' :: digits.drop (digits.length - places)

/-- The text with so many places. -/
def fixed (keepsPoint : Bool) (places : Nat) (value : Nat × Nat) : List Char :=
  pointed keepsPoint places
    (Nat.toDigits 10 (Binary64.roundQuotient (value.1 * Nat.pow 10 places) value.2))

/-- The rounded digits with so many places behind the first one, and the power of ten of it. -/
def rounded (places : Nat) (value : Nat × Nat) : Nat × Int :=
  if value.1 = 0 then (0, 0)
  else
    let power := Binary64.leadingPower value.1 value.2
    let shift := (places : Int) - power
    let digits :=
      if shift < 0 then Binary64.roundQuotient value.1 (value.2 * Nat.pow 10 shift.natAbs)
      else Binary64.roundQuotient (value.1 * Nat.pow 10 shift.natAbs) value.2
    if digits = Nat.pow 10 (places + 1) then (digits / 10, power + 1) else (digits, power)

/-- The text of an exponent, with at least two digits. -/
def exponentText (mark : Char) (power : Int) : List Char :=
  let digits := Nat.toDigits 10 power.natAbs
  mark :: (if power < 0 then '-' else '+') ::
    (List.replicate (2 - digits.length) '0' ++ digits)

/-- The text with one digit before the point, so many behind it, and an exponent. -/
def scientific (keepsPoint : Bool) (places : Nat) (value : Nat × Nat) : List Char :=
  let (digits, power) := rounded places value
  pointed keepsPoint places (Nat.toDigits 10 digits) ++ exponentText 'e' power

/-- A text without zeros at the end of its places, and without a point that nothing follows. -/
def withoutZeros (text : List Char) : List Char :=
  if text.contains '.' then
    ((text.reverse.dropWhile (· = '0')).dropWhile (· = '.')).reverse
  else text

/-- The text with so many digits in all: without an exponent unless the number is very small or has
more digits. -/
def general (keepsZeros : Bool) (digits : Nat) (value : Nat × Nat) : List Char :=
  let digits := max digits 1
  let (_, power) := rounded (digits - 1) value
  if power < -4 ∨ (digits : Int) ≤ power then
    let (mantissa, power) := rounded (digits - 1) value
    let text := pointed keepsZeros (digits - 1) (Nat.toDigits 10 mantissa)
    (if keepsZeros then text else withoutZeros text) ++ exponentText 'e' power
  else
    let text := fixed keepsZeros ((digits : Int) - 1 - power).toNat value
    if keepsZeros then text else withoutZeros text

/-- The hexadecimal text of a number: one digit before the point, the places that are needed or so
many, and a power of two. -/
def hexadecimal (keepsPoint : Bool) (places : Option Nat) (significand : Nat) (exponent : Int) :
    List Char :=
  let isFull := Binary64.leastFull ≤ significand
  let power : Int := if significand = 0 then 0 else if isFull then exponent + 52 else -1022
  let kept := min (places.getD 13) 13
  let scaled := Binary64.roundQuotient significand (Nat.pow 16 (13 - kept))
  let digits := Nat.toDigits 16 scaled
  let padded := List.replicate (kept + 1 - digits.length) '0' ++ digits
  let whole := padded.take (padded.length - kept)
  let behind := padded.drop (padded.length - kept) ++ List.replicate (places.getD 0 - 13) '0'
  let behind := if places.isNone then (behind.reverse.dropWhile (· = '0')).reverse else behind
  let point := if behind.isEmpty && !keepsPoint then [] else ['.']
  let sign := if power < 0 then '-' else '+'
  ['0', 'x'] ++ whole ++ point ++ behind ++ 'p' :: sign :: Nat.toDigits 10 power.natAbs

end NfvCatalog.Places
