import NfvCatalog.Text.CharSet
import NfvCatalog.Text.Utf8
import Std.Data.HashMap

/-! # Room of automata

An automaton under construction takes room for its states, which are numbered in order, and for the
steps and branches that they hold.
-/

namespace NfvCatalog.Pattern

/-- The room of an automaton under construction: its states, and the bytes kept beside them. -/
structure Room where
  states : Nat := 0
  beside : Nat := 0
deriving DecidableEq, Repr, Inhabited

namespace Room

/-- The bytes of a state. -/
def stateSize : Nat := 32

/-- The bytes of a step on a range of bytes, kept beside a state. -/
def stepSize : Nat := 8

/-- The bytes of a branch, a step without a byte, kept beside a state. -/
def branchSize : Nat := 4

/-- The bytes that all takes. -/
def size (room : Room) : Nat := room.states * stateSize + room.beside

/-- The most bytes that an automaton may take. -/
def limit : Nat := 10 * 1024 * 1024

/-- Whether an automaton takes more than it may. -/
def isTooLarge (room : Room) : Bool := limit < room.size

/-- The room with some more states that hold at most one step. -/
def addStates (count : Nat) (room : Room) : Room := { room with states := room.states + count }

/-- The room with another state that holds at most one step. -/
def addState (room : Room) : Room := room.addStates 1

/-- The room with a state for some steps. -/
def addSteps (count : Nat) (room : Room) : Room :=
  ⟨room.states + 1, room.beside + count * stepSize⟩

/-- The room with some more branches of a state that is there. -/
def addBranches (count : Nat) (room : Room) : Room :=
  { room with beside := room.beside + count * branchSize }

/-- The room with a state for some branches. -/
def addFork (count : Nat) (room : Room) : Room := room.addState.addBranches count

/-- Add the same thing some number of times, until the room is too large. -/
def copies (add : Room → Room) : Nat → Room → Room
  | 0, room => room
  | count + 1, room => if room.isTooLarge then room else copies add count (add room)

end Room

end NfvCatalog.Pattern

/-! ## Ranges of characters as spans of bytes

The characters of a range, written in bytes, are those of a few sequences of byte ranges, which do
not overlap and come in order.
-/

namespace NfvCatalog.Pattern

open Text (CharSet)

/-- A range of bytes, both ends included. -/
abbrev ByteSpan := Nat × Nat

/-- The byte ranges of numbers with some digits in radix 64, the first of which starts at a given
byte. A range with the same first digit at both ends is a range of the rest; otherwise the parts at
both ends that do not fill a first digit stand apart. -/
def digitSpans (lead : Nat) : Nat → Nat → Nat → List (List ByteSpan)
  | 0, low, high => [[(lead + low, lead + high)]]
  | digits + 1, low, high =>
    let unit := Nat.pow 64 (digits + 1)
    let first := low / unit
    let last := high / unit
    let under (digit low high : Nat) : List (List ByteSpan) :=
      (digitSpans 0x80 digits low high).map ((lead + digit, lead + digit) :: ·)
    if first = last then under first (low % unit) (high % unit)
    else
      let start := if low % unit = 0 then first else first + 1
      let stop := if high % unit = unit - 1 then last + 1 else last
      let before := if start = first then [] else under first (low % unit) (unit - 1)
      let after := if stop = last then under last 0 (high % unit) else []
      let full := List.replicate (digits + 1) (0x80, 0xBF)
      let middle := if start < stop then [(lead + start, lead + (stop - 1)) :: full] else []
      before ++ middle ++ after

/-- The codes written in one, two, three and four bytes, with the first byte for digit zero and the
count of further digits. Halves of pairs are not written. -/
def widths : List (Nat × Nat × Nat × Nat) :=
  [(0, 0x7F, 0, 0), (0x80, 0x7FF, 0xC0, 1), (0x800, 0xD7FF, 0xE0, 2), (0xE000, 0xFFFF, 0xE0, 2),
    (0x10000, CharSet.lastCode, 0xF0, 3)]

/-- The sequences of byte ranges of a range of codes. -/
def rangeSpans (range : Nat × Nat) : List (List ByteSpan) :=
  widths.flatMap fun (first, last, lead, digits) =>
    let low := max first range.1
    let high := min last range.2
    if low ≤ high then digitSpans lead digits low high else []

/-- The sequences of byte ranges of a set. -/
def setSpans (set : CharSet) : List (List ByteSpan) := set.ranges.flatMap rangeSpans

end NfvCatalog.Pattern

/-! ## Room of sets

The automaton of a set reads the bytes of its members. A state that would repeat another is not
added again if the other is remembered. A memory has a slot for each number that a thing can be
mixed to, and a slot keeps only what was last put there, so a few states are added twice.
-/

namespace NfvCatalog.Pattern

open Text (CharSet)

/-! ### Memories -/

/-- A memory of the states of things. -/
structure Memory (α : Type) where
  slots : Std.HashMap UInt64 (α × Nat) := { }

namespace Memory

variable {α : Type} [DecidableEq α]

/-- The state of a thing, if its slot keeps it. -/
def state? (memory : Memory α) (slot : UInt64) (thing : α) : Option Nat :=
  match memory.slots[slot]? with
  | some (kept, state) => if kept = thing then some state else none
  | none => none

/-- Put the state of a thing into its slot. -/
def put (memory : Memory α) (slot : UInt64) (thing : α) (state : Nat) : Memory α :=
  ⟨memory.slots.insert slot (thing, state)⟩

end Memory

/-- Numbers mixed to one below a count. -/
def mixed (count : UInt64) (numbers : List Nat) : UInt64 :=
  numbers.foldl (fun mix number => (mix ^^^ number.toUInt64) * 1099511628211)
    14695981039346656037 % count

/-- An automaton under construction, with a memory of its states. -/
structure SetRoom (α : Type) where
  room : Room
  memory : Memory α := { }

/-! ### Forward -/

/-- The steps out of a state: ranges of bytes, each with the state that it leads to. -/
abbrev Steps := List (ByteSpan × Nat)

/-- The slots for states of an automaton that reads forward. -/
def forwardSlots : UInt64 := 10000

/-- Sequences with the same first range, put together in order. -/
def grouped : List (List ByteSpan) → List (ByteSpan × List (List ByteSpan))
  | [] => []
  | [] :: rest => grouped rest
  | (span :: tail) :: rest =>
    match grouped rest with
    | (next, tails) :: groups =>
      if next = span then (next, tail :: tails) :: groups
      else (span, [tail]) :: (next, tails) :: groups
    | [] => [(span, [tail])]

/-- The state with some steps; one that is not remembered is added. -/
def SetRoom.stateOf (steps : Steps) (built : SetRoom Steps) : Nat × SetRoom Steps :=
  let slot := mixed forwardSlots (steps.flatMap fun step => [step.1.1, step.1.2, step.2])
  match built.memory.state? slot steps with
  | some state => (state, built)
  | none =>
    let state := built.room.states
    (state, ⟨built.room.addSteps steps.length, built.memory.put slot steps state⟩)

/-- The state at which sequences of at most some length begin, each of which leads to the same
last state. States are added after those that they lead to. -/
def SetRoom.beginning (last : Nat) :
    Nat → List (List ByteSpan) → SetRoom Steps → Nat × SetRoom Steps
  | 0, _, built => (last, built)
  | length + 1, sequences, built =>
    if sequences.all List.isEmpty then (last, built)
    else
      let (steps, built) := (grouped sequences).foldl
        (fun (steps, built) (span, tails) =>
          let (state, built) := beginning last length tails built
          (steps ++ [(span, state)], built))
        ([], built)
      stateOf steps built

/-- The most bytes of a character. -/
def longest : Nat := 4

/-- The room with a set that is read forward. -/
def Room.addForward (sequences : List (List ByteSpan)) (room : Room) : Room :=
  (SetRoom.beginning room.states longest sequences ⟨room.addState, { }⟩).2.room

/-! ### Backward -/

/-- The slots for states of an automaton that reads backward. -/
def backwardSlots : UInt64 := 1000

/-- The state from which a range of bytes leads to another; one that is not remembered is added. -/
def SetRoom.stateTo (span : ByteSpan) (next : Nat) (built : SetRoom (Nat × ByteSpan)) :
    Nat × SetRoom (Nat × ByteSpan) :=
  let slot := mixed backwardSlots [next, span.1, span.2]
  match built.memory.state? slot (next, span) with
  | some state => (state, built)
  | none =>
    let state := built.room.states
    (state, ⟨built.room.addState, built.memory.put slot (next, span) state⟩)

/-- The room with a set that is read backward: a branch to each of its sequences. -/
def Room.addBackward (sequences : List (List ByteSpan)) (room : Room) : Room :=
  let last := room.states + 1
  let addSequence (built : SetRoom (Nat × ByteSpan)) (sequence : List ByteSpan) :=
    (sequence.foldl (fun (next, built) span => SetRoom.stateTo span next built) (last, built)).2
  let built := sequences.foldl addSequence ⟨(room.addFork 0).addState, { }⟩
  built.room.addBranches sequences.length

/-! ### Either way -/

/-- The room with a set. One of ASCII has a state for all its ranges. -/
def Room.addSet (backward : Bool) (set : CharSet) (room : Room) : Room :=
  if set.isAscii then room.addState.addSteps set.ranges.length
  else if backward then room.addBackward (setSpans set)
  else room.addForward (setSpans set)

end NfvCatalog.Pattern

/-! ## Room of texts

Alternatives that are all texts share the states of their beginnings: they are the paths of a tree.
A text that ends where others go on closes the tree there, so that the texts after it are kept apart
from those before it.
-/

namespace NfvCatalog.Pattern

/-! ### Places of a tree -/

/-- The texts that go on from a place, between those that end there. -/
structure TreePlace where
  closed : List (List (List UInt8)) := []
  last : List (List UInt8) := []
deriving DecidableEq, Repr, Inhabited

namespace TreePlace

/-- A place at which another text goes on or ends. A place where texts have ended and none goes on
is not closed again. -/
def add (place : TreePlace) (text : List UInt8) : TreePlace :=
  if !text.isEmpty then { place with last := place.last ++ [text] }
  else if place.last.isEmpty && !place.closed.isEmpty && place.closed.all List.isEmpty then place
  else ⟨place.closed ++ [place.last], []⟩

/-- The place of some texts. -/
def ofTexts (texts : List (List UInt8)) : TreePlace := texts.foldl add { }

/-- The texts of a place in the order of the parts that it is closed into. -/
def parts (place : TreePlace) : List (List (List UInt8)) := place.closed ++ [place.last]

end TreePlace

/-- The first bytes of some texts, in order. -/
def firstBytes (texts : List (List UInt8)) : List UInt8 :=
  ((texts.filterMap List.head?).mergeSort (· ≤ ·)).eraseDups

/-- What follows a byte in those texts that start with it. -/
def behindByte (byte : UInt8) (texts : List (List UInt8)) : List (List UInt8) :=
  texts.filterMap fun
    | first :: rest => if first = byte then some rest else none
    | [] => none

/-! ### Room -/

/-- The room with a state for some steps on single bytes. A single step needs no room beside. -/
def Room.addByteSteps (count : Nat) (room : Room) : Room :=
  if count = 1 then room.addState else room.addSteps count

/-- The room with the tree of texts of at most some length. -/
def Room.addTree : Nat → List (List UInt8) → Room → Room
  | 0, _, room => room
  | length + 1, texts, room =>
    let place := TreePlace.ofTexts texts
    let addPart (room : Room) (part : List (List UInt8)) : Room :=
      let bytes := firstBytes part
      let room := bytes.foldl
        (fun room byte =>
          let rest := behindByte byte part
          if rest.all List.isEmpty then room else addTree length rest room)
        room
      if bytes.isEmpty then room else room.addByteSteps bytes.length
    let taken := (place.parts.filter (!·.isEmpty)).length
    (place.parts.foldl addPart room).addFork (taken + place.closed.length)

/-- The room with alternatives that are texts. -/
def Room.addTexts (backward : Bool) (texts : List (List Char)) (room : Room) : Room :=
  let read (text : List Char) : List UInt8 :=
    let bytes := Utf8.encode (String.ofList text)
    if backward then bytes.reverse else bytes
  let texts := texts.map read
  let longest := texts.foldl (fun longest text => max longest text.length) 0
  room.addState.addTree longest texts

end NfvCatalog.Pattern
