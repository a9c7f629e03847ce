import NfvCatalog.Number.Digits
import NfvCatalog.Text.Blank

/-! # Numbers that texts start with

A number may have blanks and a sign before it. With radix zero a text that starts with `0x` is
hexadecimal and one that starts with `0` is octal. Numbers beyond 64 bits are cut to the nearest.
-/

namespace NfvCatalog.Shell

/-- The number that a text starts with, the text behind it, whether there was one at all, and
whether it had to be cut. -/
structure Spelled where
  value : Int := 0
  rest : List Char
  isFound : Bool := false
  isCut : Bool := false
deriving DecidableEq, Repr, Inhabited

namespace Spelled

/-- A character that separates words of bytes. -/
def isSpace (c : Char) : Bool := c = ' ' || ('\t' ≤ c && c ≤ '\r')

/-- The greatest number of 64 bits with a sign. -/
def greatest : Int := 0x7FFFFFFFFFFFFFFF

/-- The number that digits of a radix spell. -/
def numeral (radix : Nat) (digits : List Char) : Nat :=
  digits.foldl (fun n c => n * radix + (Digits.digit? c).getD 0) 0

/-- Whether a character is a digit of a radix. -/
def isDigit (radix : Nat) (c : Char) : Bool := (Digits.digit? c).any (· < radix)

/-- The radix of a text, and its digits with what is behind them. -/
def withRadix (radix : Nat) (cs : List Char) : Nat × List Char :=
  match cs with
  | '0' :: x :: d :: rest =>
    if (x = 'x' || x = 'X') && (radix = 0 || radix = 16) && isDigit 16 d then (16, d :: rest)
    else if radix = 0 then (8, cs) else (radix, cs)
  | '0' :: _ => (if radix = 0 then 8 else radix, cs)
  | _ => (if radix = 0 then 10 else radix, cs)

/-- The number that a text starts with. `isWide` allows all numbers of 64 bits, and reads negative
ones as those that they stand for without a sign. -/
def ofText (isWide : Bool) (radix : Nat) (cs : List Char) : Spelled :=
  let start := cs.dropWhile isSpace
  let (isNegative, body) := match start with
    | '-' :: rest => (true, rest)
    | '+' :: rest => (false, rest)
    | _ => (false, start)
  let (radix, body) := withRadix radix body
  let digits := body.takeWhile (isDigit radix)
  if digits.isEmpty then { rest := cs }
  else
    let rest := body.drop digits.length
    let n : Int := numeral radix digits
    let done (value : Int) (isCut : Bool) : Spelled := ⟨value, rest, true, isCut⟩
    if isWide then
      if 2 * greatest + 1 < n then done (2 * greatest + 1) true
      else done ((if isNegative then -n else n) % (2 * greatest + 2)) false
    else if isNegative then if greatest + 1 < n then done (-greatest - 1) true else done (-n) false
    else if greatest < n then done greatest true else done n false

/-- The number that is all of a text, blanks behind it apart. A blank text is zero if the radix is
not fixed. -/
def all? (radix : Nat) (text : String) : Option Int :=
  let found := ofText false radix text.toList
  let isBare := !found.isFound && radix ≠ 0
  if isBare || found.isCut || !found.rest.all isSpace then none else some found.value

/-- The number of at most 31 bits without a sign that is all of a text. -/
def count? (text : String) : Option Nat :=
  match all? 10 text with
  | some n => if 0 ≤ n ∧ n ≤ 0x7FFFFFFF then some n.toNat else none
  | none => none

end Spelled

end NfvCatalog.Shell
