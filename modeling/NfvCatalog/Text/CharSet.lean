import NfvCatalog.Number.Digits

/-! # Sets of characters

A set of characters is a list of ranges of code points, in order and apart from each other. Sets are
combined range by range, so a set with many members costs no more than its ranges.
-/

namespace NfvCatalog.Text

/-- A set of characters: ranges of code points, both ends included. -/
structure CharSet where
  ranges : List (Nat × Nat)
deriving DecidableEq, Repr, Inhabited

namespace CharSet

/-- The last code point. -/
def lastCode : Nat := 0x10FFFF

/-- The set of no characters. -/
def empty : CharSet := ⟨[]⟩

/-- The set of all characters. -/
def all : CharSet := ⟨[(0, lastCode)]⟩

/-- The characters from one code point to another. -/
def range (low high : Nat) : CharSet := ⟨[(low, high)]⟩

/-- The set of one character. -/
def single (c : Char) : CharSet := range c.toNat c.toNat

/-- Whether a set has a code point. -/
def hasCode (set : CharSet) (code : Nat) : Bool :=
  set.ranges.any fun r => r.1 ≤ code && code ≤ r.2

/-- Whether a set has a character. -/
def has (set : CharSet) (c : Char) : Bool := set.hasCode c.toNat

/-- Whether a set has no characters. -/
def isEmpty (set : CharSet) : Bool := set.ranges.isEmpty

/-- Whether all characters of a set are those of ASCII. -/
def isAscii (set : CharSet) : Bool := set.ranges.all (·.2 < 0x80)

/-- The only character of a set that has one. -/
def only? (set : CharSet) : Option Char :=
  match set.ranges with
  | [(low, high)] => if low = high then some (Char.ofNat low) else none
  | _ => none

/-! ## Combining sets -/

/-- Join ranges that touch or overlap, in a list ordered by first code points. -/
def joined (low high : Nat) : List (Nat × Nat) → List (Nat × Nat)
  | [] => [(low, high)]
  | (nextLow, nextHigh) :: rest =>
    if nextLow ≤ high + 1 then joined low (max high nextHigh) rest
    else (low, high) :: joined nextLow nextHigh rest

/-- The set of a list of ranges ordered by first code points. -/
def ofOrdered : List (Nat × Nat) → CharSet
  | [] => empty
  | (low, high) :: rest => ⟨joined low high rest⟩

/-- Whether one range starts no later than another. -/
def startsBefore (left right : Nat × Nat) : Bool := left.1 ≤ right.1

/-- The set of any list of ranges. -/
def ofRanges (ranges : List (Nat × Nat)) : CharSet := ofOrdered (ranges.mergeSort startsBefore)

/-- The set of some code points. -/
def ofCodes (codes : List Nat) : CharSet := ofRanges (codes.map fun code => (code, code))

/-- The characters of either set. -/
def union (left right : CharSet) : CharSet :=
  ofOrdered (List.merge left.ranges right.ranges startsBefore)

/-- The ranges between the given ones, from a code point on. -/
def gaps (start : Nat) : List (Nat × Nat) → List (Nat × Nat)
  | [] => if start ≤ lastCode then [(start, lastCode)] else []
  | (low, high) :: rest =>
    if start < low then (start, low - 1) :: gaps (high + 1) rest else gaps (high + 1) rest

/-- The characters that are not in a set. -/
def compl (set : CharSet) : CharSet := ⟨gaps 0 set.ranges⟩

/-- The characters of both sets. -/
def inter (left right : CharSet) : CharSet := (left.compl.union right.compl).compl

/-- The characters of the first set that are not in the second. -/
def diff (left right : CharSet) : CharSet := left.inter right.compl

/-- The characters that are in exactly one of two sets. -/
def symmDiff (left right : CharSet) : CharSet := (left.diff right).union (right.diff left)

/-- The characters of any of some sets. -/
def unions (sets : List CharSet) : CharSet := ofRanges (sets.flatMap ranges)

/-! ## Tables

A table of a property is a text of hexadecimal codes: `41-5A` is a range, `AA` a single code, and
`100-12E/2` every second code of a range.
-/

/-- The value of hexadecimal digits, zero for none. -/
def code (digits : List Char) : Nat := (Digits.nat? 16 digits).getD 0

/-- The ranges that an entry of a table stands for. -/
def entryRanges (entry : List Char) : List (Nat × Nat) :=
  let low := entry.takeWhile (· ≠ '-')
  let high := (entry.drop (low.length + 1)).takeWhile (· ≠ '/')
  if entry.contains '/' then
    let count := (code high - code low) / 2 + 1
    (List.range count).map fun n => (code low + 2 * n, code low + 2 * n)
  else if entry.contains '-' then [(code low, code high)]
  else [(code low, code low)]

/-- The entries of a table, which blanks and line ends keep apart. -/
def entries (table : String) : List (List Char) :=
  let (last, done) := table.toList.foldr
    (fun c (piece, done) =>
      if c = ' ' || c = '\n' then ([], piece :: done) else (c :: piece, done)) ([], [])
  (last :: done).filter (!·.isEmpty)

/-- The set that a table stands for. -/
def ofTable (table : String) : CharSet := ofOrdered ((entries table).flatMap entryRanges)

end CharSet

end NfvCatalog.Text
