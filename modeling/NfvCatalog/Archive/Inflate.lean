/-! # Unpacking data

Packed data is read bit by bit, its symbols through prefix codes.
-/

/-! ## Bits of packed data

Packed data is a sequence of bits: those of the first byte, the lowest first, then those of the
next. Reading bits gives what was read and the bits behind it.
-/

namespace NfvCatalog

/-- Why bytes cannot be unpacked. -/
inductive PackingFault where
  | cutShort
  | badHeader
  | damaged
  | wrongChecksum
  | badMember
deriving DecidableEq, Repr, Inhabited

/-- The wording of a packing fault. -/
def PackingFault.message : PackingFault → String
  | .cutShort => "unexpected end of file"
  | .badHeader => "invalid gzip header"
  | .damaged => "corrupt deflate stream"
  | .wrongChecksum => "corrupt gzip stream does not have a matching checksum"
  | .badMember => "archive header checksum mismatch"

namespace Archive

/-- What is read from the front of bits, and the bits behind it. -/
abbrev Front (α : Type) := α × List Bool

/-- The bits of a byte. -/
def bitsOfByte (byte : UInt8) : List Bool := (List.range 8).map byte.toNat.testBit

/-- The bits of bytes. -/
def bitsOf (bytes : List UInt8) : List Bool := bytes.flatMap bitsOfByte

/-- Read a number of so many bits, the lowest first. -/
def number : Nat → List Bool → Except PackingFault (Front Nat)
  | 0, bits => .ok (0, bits)
  | _ + 1, [] => .error .cutShort
  | count + 1, bit :: bits =>
    match number count bits with
    | .ok (high, bits) => .ok (bit.toNat + 2 * high, bits)
    | .error fault => .error fault

/-- The bits from the next byte on. -/
def nextByte (bits : List Bool) : List Bool := bits.drop (bits.length % 8)

/-- Read so many bytes onto those that are there. -/
def bytesOnto (out : Array UInt8) : Nat → List Bool → Except PackingFault (Front (Array UInt8))
  | 0, bits => .ok (out, bits)
  | count + 1, bits =>
    match number 8 bits with
    | .ok (byte, bits) => bytesOnto (out.push (UInt8.ofNat byte)) count bits
    | .error fault => .error fault

end Archive

end NfvCatalog

/-! ## Prefix codes

A prefix code is given by the length of every symbol's code word, zero for a symbol without one.
Words of a length are consecutive numbers in the order of their symbols, and the words of the next
length go on from twice the number behind the last.
-/

namespace NfvCatalog.Archive

/-- A prefix code. -/
structure PrefixCode where
  /-- How many words have a length, from length one on. -/
  counts : List Nat
  /-- The symbols that have words, by length. -/
  symbols : Array Nat
deriving DecidableEq, Repr, Inhabited

namespace PrefixCode

/-- The longest length of a word. -/
def longest : Nat := 15

/-- The symbols whose words have a length. -/
def symbolsOfLength (lengths : List Nat) (length : Nat) : List Nat :=
  (lengths.zipIdx.filter (·.1 = length)).map Prod.snd

/-- The code with given lengths. -/
def ofLengths (lengths : List Nat) : PrefixCode :=
  let groups := (List.range longest).map fun n => symbolsOfLength lengths (n + 1)
  { counts := groups.map List.length, symbols := groups.flatten.toArray }

/-- Read the symbol of a word of which some bits have been read. `first` is the first word of the
length that comes next, and `skipped` symbols have shorter words. -/
def symbolFrom (symbols : Array Nat) (word first skipped : Nat) :
    List Nat → List Bool → Except PackingFault (Front Nat)
  | [], _ => .error .damaged
  | _ :: _, [] => .error .cutShort
  | count :: counts, bit :: bits =>
    let word := 2 * word + bit.toNat
    if word < first + count then
      match symbols[skipped + (word - first)]? with
      | some symbol => .ok (symbol, bits)
      | none => .error .damaged
    else symbolFrom symbols word (2 * (first + count)) (skipped + count) counts bits

/-- Read a symbol. -/
def symbol (code : PrefixCode) (bits : List Bool) : Except PackingFault (Front Nat) :=
  symbolFrom code.symbols 0 0 0 code.counts bits

end PrefixCode

end NfvCatalog.Archive

/-! ## Blocks and their codes

Packed data is a sequence of blocks. A block is stored as it is, or is a sequence of symbols: bytes,
and repetitions of bytes that came before, with a length and a distance back. The codes of the
symbols are fixed, or stand in front of the block.
-/

namespace NfvCatalog.Archive

/-- A range of numbers that share a symbol: the first, and the bits that tell one from another. -/
structure SymbolRange where
  base : Nat
  extra : Nat
deriving DecidableEq, Repr, Inhabited

/-- Ranges that follow each other without gaps, from their sizes. -/
def consecutive (base : Nat) : List Nat → List SymbolRange
  | [] => []
  | extra :: rest => ⟨base, extra⟩ :: consecutive (base + Nat.pow 2 extra) rest

/-- The lengths of repetitions. The longest has a symbol of its own. -/
def lengthRanges : List SymbolRange :=
  consecutive 3 ([0, 0, 0, 0] ++ [0, 1, 2, 3, 4, 5].flatMap (List.replicate 4)) ++ [⟨258, 0⟩]

/-- The distances of repetitions. -/
def distanceRanges : List SymbolRange :=
  consecutive 1 ([0, 0] ++ (List.range 14).flatMap (List.replicate 2))

/-- Read the number in the range of a symbol. -/
def inRange (ranges : List SymbolRange) (symbol : Nat) (bits : List Bool) :
    Except PackingFault (Front Nat) :=
  match ranges[symbol]? with
  | none => .error .damaged
  | some range =>
    match number range.extra bits with
    | .ok (offset, bits) => .ok (range.base + offset, bits)
    | .error fault => .error fault

/-- Repeat so many bytes from a distance back. -/
def repeatBytes (distance : Nat) : Nat → Array UInt8 → Array UInt8
  | 0, out => out
  | count + 1, out => repeatBytes distance count (out.push (out.getD (out.size - distance) 0))

/-- The symbol that ends a block. -/
def endSymbol : Nat := 256

/-- Read a length, whose symbol is known, and a distance. -/
def repetition (distances : PrefixCode) (symbol : Nat) (bits : List Bool) :
    Except PackingFault (Front (Nat × Nat)) := do
  let (length, bits) ← inRange lengthRanges (symbol - endSymbol - 1) bits
  let (symbol, bits) ← distances.symbol bits
  let (distance, bits) ← inRange distanceRanges symbol bits
  return ((length, distance), bits)

/-- Read the symbols of a block up to its end; `fuel` bounds their number. -/
def symbolsOnto (literals distances : PrefixCode) :
    Nat → Array UInt8 → List Bool → Except PackingFault (Front (Array UInt8))
  | 0, _, _ => .error .cutShort
  | fuel + 1, out, bits =>
    match literals.symbol bits with
    | .error fault => .error fault
    | .ok (symbol, bits) =>
      if symbol < endSymbol then
        symbolsOnto literals distances fuel (out.push (UInt8.ofNat symbol)) bits
      else if symbol = endSymbol then .ok (out, bits)
      else
        match repetition distances symbol bits with
        | .error fault => .error fault
        | .ok ((length, distance), bits) =>
          if out.size < distance then .error .damaged
          else symbolsOnto literals distances fuel (repeatBytes distance length out) bits

/-! ### Codes of blocks -/

/-- The fixed code of bytes and lengths. -/
def fixedLiterals : PrefixCode :=
  .ofLengths (List.replicate 144 8 ++ List.replicate 112 9 ++ List.replicate 24 7 ++
    List.replicate 8 8)

/-- The fixed code of distances. -/
def fixedDistances : PrefixCode := .ofLengths (List.replicate 30 5)

/-- The order in which the lengths for the code of lengths are written. -/
def lengthOrder : List Nat := [16, 17, 18, 0, 8, 7, 9, 6, 10, 5, 11, 4, 12, 3, 13, 2, 14, 1, 15]

/-- Read numbers of three bits. -/
def threeBits : Nat → List Bool → Except PackingFault (Front (List Nat))
  | 0, bits => .ok ([], bits)
  | count + 1, bits => do
    let (first, bits) ← number 3 bits
    let (rest, bits) ← threeBits count bits
    return (first :: rest, bits)

/-- What a symbol of the code of lengths stands for: a length, and how often it comes. The last
length may be repeated, and so may zero. -/
def lengthRun (last : Option Nat) (symbol : Nat) (bits : List Bool) :
    Except PackingFault (Front (Nat × Nat)) :=
  let run (length base extra : Nat) : Except PackingFault (Front (Nat × Nat)) :=
    match number extra bits with
    | .ok (offset, bits) => .ok ((length, base + offset), bits)
    | .error fault => .error fault
  match symbol, last with
  | 16, some last => run last 3 2
  | 16, none => .error .damaged
  | 17, _ => run 0 3 3
  | 18, _ => run 0 11 7
  | length, _ => run length 1 0

/-- Read so many lengths behind those that are there; `fuel` bounds the number of symbols. -/
def lengthsOnto (code : PrefixCode) (wanted : Nat) :
    Nat → List Nat → List Bool → Except PackingFault (Front (List Nat))
  | 0, _, _ => .error .damaged
  | fuel + 1, lengths, bits =>
    if wanted < lengths.length then .error .damaged
    else if lengths.length = wanted then .ok (lengths, bits)
    else do
      let (symbol, bits) ← code.symbol bits
      let ((length, count), bits) ← lengthRun lengths.getLast? symbol bits
      lengthsOnto code wanted fuel (lengths ++ List.replicate count length) bits

/-- Read the codes that stand in front of a block. -/
def blockCodes (bits : List Bool) : Except PackingFault (Front (PrefixCode × PrefixCode)) := do
  let (literals, bits) ← number 5 bits
  let (distances, bits) ← number 5 bits
  let (written, bits) ← number 4 bits
  let (small, bits) ← threeBits (written + 4) bits
  let entries := lengthOrder.zip small
  let lengthCode := PrefixCode.ofLengths ((List.range 19).map fun symbol =>
    ((entries.find? (·.1 = symbol)).map Prod.snd).getD 0)
  let wanted := literals + 257 + (distances + 1)
  let (lengths, bits) ← lengthsOnto lengthCode wanted (wanted + 1) [] bits
  return ((.ofLengths (lengths.take (literals + 257)), .ofLengths (lengths.drop (literals + 257))),
    bits)

/-! ### Blocks -/

/-- Read a stored block: its size, the size with all bits turned, and its bytes. -/
def storedOnto (out : Array UInt8) (bits : List Bool) :
    Except PackingFault (Front (Array UInt8)) := do
  let (size, bits) ← number 16 (nextByte bits)
  let (turned, bits) ← number 16 bits
  if size + turned ≠ UInt16.size - 1 then throw .damaged
  bytesOnto out size bits

/-- Read a block of a kind. -/
def blockOnto (kind : Nat) (out : Array UInt8) (bits : List Bool) :
    Except PackingFault (Front (Array UInt8)) := do
  match kind with
  | 0 => storedOnto out bits
  | 1 => symbolsOnto fixedLiterals fixedDistances (bits.length + 1) out bits
  | 2 =>
    let ((literals, distances), bits) ← blockCodes bits
    symbolsOnto literals distances (bits.length + 1) out bits
  | _ => throw .damaged

/-- Read blocks up to the last; `fuel` bounds their number. -/
def blocksOnto : Nat → Array UInt8 → List Bool → Except PackingFault (Front (Array UInt8))
  | 0, _, _ => .error .cutShort
  | fuel + 1, out, bits => do
    let (last, bits) ← number 1 bits
    let (kind, bits) ← number 2 bits
    let (out, bits) ← blockOnto kind out bits
    if last = 1 then return (out, bits) else blocksOnto fuel out bits

/-- The bytes that packed data stands for, and the bits behind the data. -/
def inflate (bytes : List UInt8) : Except PackingFault (Front (Array UInt8)) :=
  blocksOnto (8 * bytes.length + 1) #[] (bitsOf bytes)

end NfvCatalog.Archive
