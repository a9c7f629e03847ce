/-! # Labels of host names in ASCII

A label with characters beyond ASCII is written as its ASCII characters followed by the places and
values of the others, as variable-length numbers in radix 36 whose digit weights adapt to the
numbers already written. Reading undoes this.
-/

namespace NfvCatalog.Punycode

/-- The digit of a value below 36: letters first. -/
def digit (value : Nat) : Char :=
  if value < 26 then Char.ofNat (0x61 + value) else Char.ofNat (0x30 + (value - 26))

/-- The largest value that the digit at a position may end a number with. -/
def threshold (position bias : Nat) : Nat :=
  if position ≤ bias then 1 else if bias + 26 ≤ position then 26 else position - bias

theorem threshold_pos (position bias : Nat) : 1 ≤ threshold position bias := by
  unfold threshold
  split
  · omega
  · split <;> omega

/-- The digits of a number, the least significant first. -/
def digits (bias position number : Nat) : List Char :=
  let limit := threshold position bias
  if number < limit then [digit number]
  else
    digit (limit + (number - limit) % (36 - limit)) ::
      digits bias (position + 36) ((number - limit) / (36 - limit))
termination_by number
decreasing_by
  have positive := threshold_pos position bias
  have := Nat.div_le_self (number - threshold position bias) (36 - threshold position bias)
  omega

/-- Divide by 35 while a number is large, counting 36 for each step. -/
def shrink (number steps : Nat) : Nat × Nat :=
  if 455 < number then shrink (number / 35) (steps + 36) else (number, steps)
termination_by number

/-- The bias after a number, from the number and the count of characters placed so far. -/
def adapt (number count : Nat) (isFirst : Bool) : Nat :=
  let start := if isFirst then number / 700 else number / 2
  let (number, steps) := shrink (start + start / count) 0
  steps + 36 * number / (number + 38)

/-- Where the writing stands: text so far, distance since the last placed character, bias, and the
count of characters placed. -/
structure Progress where
  done : List Char
  distance : Nat
  bias : Nat
  placed : Nat

/-- Walk past one character of the label while the characters with a given code are placed. -/
def Progress.pass (basic code : Nat) (state : Progress) (c : Char) : Progress :=
  if c.toNat < code then { state with distance := state.distance + 1 }
  else if c.toNat = code then
    { done := state.done ++ digits state.bias 36 state.distance
      distance := 0
      bias := adapt state.distance (state.placed + 1) (state.placed = basic)
      placed := state.placed + 1 }
  else state

/-- Place the characters of each code in turn. -/
def place (label : List Char) (basic : Nat) : List Nat → Nat → Progress → Progress
  | [], _, state => state
  | code :: rest, next, state =>
    let start := { state with distance := state.distance + (code - next) * (state.placed + 1) }
    let state := label.foldl (Progress.pass basic code) start
    place label basic rest (code + 1) { state with distance := state.distance + 1 }

/-- The codes beyond ASCII in a label, in order and each once. -/
def codesBeyond (label : List Char) : List Nat :=
  ((label.map Char.toNat).filter (0x80 ≤ ·)).mergeSort.eraseDups

/-- The ASCII form of a label, without the mark that tells it from a plain one. -/
def encode (label : List Char) : List Char :=
  let basic := label.filter fun c => c.toNat < 0x80
  let start : Progress := { done := [], distance := 0, bias := 72, placed := basic.length }
  let rest := (place label basic.length (codesBeyond label) 0x80 start).done
  basic ++ (if basic.isEmpty then [] else ['-']) ++ rest

/-! ## Reading -/

/-- The value of a digit. -/
def digitValue? (c : Char) : Option Nat :=
  if 'a' ≤ c ∧ c ≤ 'z' then some (c.toNat - 0x61)
  else if '0' ≤ c ∧ c ≤ '9' then some (c.toNat - 0x30 + 26)
  else none

/-- The number at the start of some digits, and the digits after it. Each digit weighs as much as
all values of those before it that do not end the number. -/
def number? (bias position weight : Nat) : List Char → Option (Nat × List Char)
  | [] => none
  | c :: rest => do
    let value ← digitValue? c
    let limit := threshold position bias
    if value < limit then return (value * weight, rest)
    let (more, rest) ← number? bias (position + 36) (weight * (36 - limit)) rest
    return (value * weight + more, rest)

/-- Put characters into a label, one for each number. `code` is that of the character placed last
and `place` where the next one goes at the earliest; `fuel` bounds the numbers. -/
def insertAll : Nat → List Nat → Nat → Nat → Nat → List Char → Option (List Nat)
  | 0, label, _, _, _, rest => if rest.isEmpty then some label else none
  | fuel + 1, label, code, place, bias, rest =>
    if rest.isEmpty then some label
    else do
      let (distance, rest) ← number? bias 36 1 rest
      let count := label.length + 1
      let position := (place + distance) % count
      let code := code + (place + distance) / count
      if ¬ code.isValidChar then none
      let bias := adapt distance count (place = 0)
      insertAll fuel (label.take position ++ code :: label.drop position) code (position + 1) bias
        rest

/-- The codes of a label from its ASCII form without the mark. The last hyphen ends the characters
that stand for themselves. -/
def decode? (text : List Char) : Option (List Nat) :=
  let tail := (text.reverse.takeWhile (· ≠ '-')).reverse
  let basic := (text.take (text.length - tail.length)).dropLast.map Char.toNat
  if text.any (0x80 ≤ ·.toNat) then none
  else insertAll tail.length basic 0x80 0 72 tail

end NfvCatalog.Punycode
