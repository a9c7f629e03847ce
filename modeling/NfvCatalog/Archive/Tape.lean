import NfvCatalog.Archive.Inflate
import NfvCatalog.Files.Tree
import NfvCatalog.Number.Digits

/-! # Packed archives

An archive is a tape of members, packed into an envelope.
-/

/-! ## Envelopes

Packed data lies in an envelope: a header of ten bytes with a mark in front, optional parts that the
header announces, the data, a checksum of what the data stands for, and its size. What is put into
an envelope here is stored in blocks as it is.
-/

namespace NfvCatalog.Archive

/-! ### Checksums -/

/-- One step of the cyclic checksum: the lowest bit leaves. -/
def checksumStep (sum : UInt32) : UInt32 :=
  if sum &&& 1 = 1 then (sum >>> 1) ^^^ 0xEDB88320 else sum >>> 1

/-- The checksum after a byte. -/
def checksumByte (sum : UInt32) (byte : UInt8) : UInt32 :=
  Nat.repeat checksumStep 8 (sum ^^^ byte.toUInt32)

/-- The cyclic checksum of bytes. -/
def checksum (bytes : List UInt8) : UInt32 :=
  bytes.foldl checksumByte 0xFFFFFFFF ^^^ 0xFFFFFFFF

/-- A number in so many bytes, the lowest first. -/
def littleBytes : Nat → Nat → List UInt8
  | 0, _ => []
  | count + 1, n => UInt8.ofNat n :: littleBytes count (n / 256)

/-- The number of bytes, the lowest first. -/
def littleNumber : List UInt8 → Nat
  | [] => 0
  | byte :: rest => byte.toNat + 256 * littleNumber rest

/-! ### Unpacking -/

/-- The bytes of the fixed part of a header. -/
def headerSize : Nat := 10

/-- Whether the first bytes are the mark of the envelope, the packing method and permitted flags. -/
def isHeader : List UInt8 → Bool
  | 0x1f :: 0x8b :: 8 :: flags :: _ => flags &&& 0xE0 = 0
  | _ => false

/-- The bytes behind a part of a given size. -/
def skip (size : Nat) (bytes : List UInt8) : Except PackingFault (List UInt8) :=
  if bytes.length < size then .error .cutShort else .ok (bytes.drop size)

/-- The bytes behind a text that ends in a zero byte. -/
def skipText (bytes : List UInt8) : Except PackingFault (List UInt8) :=
  match bytes.dropWhile (· ≠ 0) with
  | [] => .error .cutShort
  | _ :: rest => .ok rest

/-- The bytes behind a part that begins with its size. -/
def skipSized : List UInt8 → Except PackingFault (List UInt8)
  | low :: high :: rest => skip (low.toNat + 256 * high.toNat) rest
  | _ => .error .cutShort

/-- The bytes behind the optional parts that the flags announce: an extra part, a name, a comment
and a checksum of the header. -/
def skipOptions (flags : UInt8) (bytes : List UInt8) : Except PackingFault (List UInt8) := do
  let bytes ← if flags &&& 4 ≠ 0 then skipSized bytes else pure bytes
  let bytes ← if flags &&& 8 ≠ 0 then skipText bytes else pure bytes
  let bytes ← if flags &&& 16 ≠ 0 then skipText bytes else pure bytes
  if flags &&& 2 ≠ 0 then skip 2 bytes else pure bytes

/-- The bytes behind a header. -/
def skipHeader (bytes : List UInt8) : Except PackingFault (List UInt8) :=
  if bytes.length < headerSize then .error .cutShort
  else if !isHeader bytes then .error .badHeader
  else skipOptions (bytes.getD 3 0) (bytes.drop headerSize)

/-- The bytes in an envelope. -/
def unpack (bytes : List UInt8) : Except PackingFault (List UInt8) := do
  let data ← skipHeader bytes
  let (out, rest) ← inflate data
  let (trailer, _) ← bytesOnto #[] 8 (nextByte rest)
  let content := out.toList
  if littleNumber (trailer.toList.take 4) ≠ (checksum content).toNat then throw .wrongChecksum
  if littleNumber (trailer.toList.drop 4) ≠ content.length % UInt32.size then throw .wrongChecksum
  return content

/-! ### Packing -/

/-- The header of an envelope without optional parts. -/
def plainHeader : List UInt8 := [0x1f, 0x8b, 8, 0, 0, 0, 0, 0, 0, 255]

/-- The most bytes in a stored block. -/
def blockSize : Nat := 65535

/-- A stored block. -/
def storedBlock (last : Bool) (bytes : List UInt8) : List UInt8 :=
  (if last then 1 else 0) :: littleBytes 2 bytes.length ++
    littleBytes 2 (blockSize - bytes.length) ++ bytes

/-- Bytes in stored blocks; `fuel` bounds their number. -/
def storedBlocks : Nat → List UInt8 → List UInt8
  | 0, bytes => storedBlock true (bytes.take blockSize)
  | fuel + 1, bytes =>
    if bytes.length ≤ blockSize then storedBlock true bytes
    else storedBlock false (bytes.take blockSize) ++ storedBlocks fuel (bytes.drop blockSize)

/-- Bytes in an envelope. -/
def pack (bytes : List UInt8) : List UInt8 :=
  plainHeader ++ storedBlocks (bytes.length / blockSize) bytes ++
    littleBytes 4 (checksum bytes).toNat ++ littleBytes 4 bytes.length

/-! ## Archives on tape

An archive is a sequence of members in blocks of 512 bytes. A member is a header block with its
path, mode, size, kind and a checksum, followed by the blocks of its bytes. A path that is too long
for a header stands in a member of its own in front. Blocks of zeros end the archive.
-/

/-- The bytes of a block. -/
def tapeBlock : Nat := 512

/-! ### Reading -/

/-- The bytes of a field of a header. -/
def field (header : List UInt8) (start size : Nat) : List UInt8 := (header.drop start).take size

/-- The text of a field, which a zero byte may end. -/
def fieldText (header : List UInt8) (start size : Nat) : String :=
  Utf8.lossy ((field header start size).takeWhile (· ≠ 0))

/-- The number of a field: octal digits between blanks, or a binary number after a mark. -/
def fieldNumber? (header : List UInt8) (start size : Nat) : Option Nat :=
  let bytes := field header start size
  match bytes with
  | mark :: rest =>
    if mark &&& 0x80 ≠ 0 then some (rest.foldl (fun n byte => 256 * n + byte.toNat) 0)
    else
      let digits := Text.trimChars ((fieldText header start size).toList)
      if digits.isEmpty then some 0 else Digits.nat? 8 digits
  | [] => none

/-- The sum of a header's bytes, with blanks in place of its checksum. -/
def headerSum (header : List UInt8) : Nat :=
  let sum (bytes : List UInt8) : Nat := bytes.foldl (fun n byte => n + byte.toNat) 0
  sum (header.take 148) + 8 * 32 + sum (header.drop 156)

/-- What a header says. -/
structure TapeHeader where
  path : String
  size : Nat
  flag : UInt8
deriving DecidableEq, Repr, Inhabited

/-- Read a header. A path may be continued to the left by a second field. -/
def header? (block : List UInt8) : Option TapeHeader := do
  let sum ← fieldNumber? block 148 8
  let size ← fieldNumber? block 124 12
  if sum ≠ headerSum block then none
  let front := if fieldText block 257 6 = "ustar" then fieldText block 345 155 else ""
  let name := fieldText block 0 100
  return { path := if front.isEmpty then name else front ++ "/" ++ name, size
           flag := block.getD 156 0 }

/-- The bytes of so many bytes with those that fill their last block. -/
def paddedSize (size : Nat) : Nat := (size + tapeBlock - 1) / tapeBlock * tapeBlock

/-- The path in the records of an extended header: a count, a blank, a name, an equals sign, a value
and the end of a line. -/
def pathRecord? (text : String) : Option String :=
  (Text.split '\n' text).findSome? fun line =>
    match Text.split ' ' line with
    | _ :: rest =>
      let record := Text.join " " rest
      if Text.startsWith record "path=" then some (String.ofList (record.toList.drop 5)) else none
    | [] => none

/-- The bytes of a path that stands in a member of its own, less the zero byte that ends it. -/
def withoutEnd (bytes : List UInt8) : List UInt8 :=
  if bytes.getLast? = some 0 then bytes.dropLast else bytes

/-- The members on a tape, where a path may have been given in front; `fuel` bounds their number. -/
def membersFrom : Nat → Option String → List UInt8 → Except PackingFault (List ArchiveMember)
  | 0, _, _ => .ok []
  | fuel + 1, given, bytes =>
    let block := bytes.take tapeBlock
    if block.all (· = 0) then .ok []
    else if block.length < tapeBlock then .error .cutShort
    else
      match header? block with
      | none => .error .badMember
      | some header =>
        let after := bytes.drop tapeBlock
        if after.length < header.size then .error .cutShort
        else
          let content := after.take header.size
          let rest := after.drop (paddedSize header.size)
          let path := given.getD header.path
          let onward (kind : MemberKind) : Except PackingFault (List ArchiveMember) := do
            return { path, kind } :: (← membersFrom fuel none rest)
          match header.flag with
          | 0 | 48 => onward (.file content)
          | 53 => onward .directory
          | 76 => membersFrom fuel (some (Utf8.lossy (withoutEnd content))) rest
          | 120 => membersFrom fuel (pathRecord? (Utf8.lossy content)) rest
          | 103 => membersFrom fuel given rest
          | _ => onward .link

/-- The members of a packed archive. -/
def read (bytes : List UInt8) : Except PackingFault (List ArchiveMember) := do
  let tape ← unpack bytes
  membersFrom (tape.length / tapeBlock + 1) none tape

/-! ### Writing -/

/-- Bytes with zeros up to a size. -/
def filled (size : Nat) (bytes : List UInt8) : List UInt8 :=
  bytes ++ List.replicate (size - bytes.length) 0

/-- A number as octal digits, with a zero byte behind them. -/
def octalField (size n : Nat) : List UInt8 :=
  let digits := Nat.toDigits 8 n
  Utf8.encode (String.ofList (List.replicate (size - 1 - digits.length) '0' ++ digits)) ++ [0]

/-- The fields of a header behind its checksum. -/
def headerTail (flag : UInt8) : List UInt8 :=
  flag :: filled 100 [] ++ Utf8.encode "ustar" ++ [0, 48, 48] ++ filled 247 []

/-- A header. -/
def headerBlock (path : List UInt8) (mode size : Nat) (flag : UInt8) : List UInt8 :=
  let front := filled 100 (path.take 100) ++ octalField 8 mode ++ octalField 8 0 ++
    octalField 8 0 ++ octalField 12 size ++ octalField 12 0
  let block (sum : List UInt8) : List UInt8 := front ++ sum ++ headerTail flag
  let blank := block (List.replicate 8 32)
  block (octalField 7 (headerSum blank) ++ [32])

/-- The blocks of a member's bytes. -/
def contentBlocks (bytes : List UInt8) : List UInt8 := filled (paddedSize bytes.length) bytes

/-- The member in front of one whose path is too long for a header. -/
def longPath (path : List UInt8) : List UInt8 :=
  if path.length ≤ 100 then []
  else
    headerBlock (Utf8.encode "././@LongLink") 0 (path.length + 1) 76 ++ contentBlocks (path ++ [0])

/-- The blocks of a member. -/
def memberBlocks (member : ArchiveMember) : List UInt8 :=
  let path := Utf8.encode member.path
  longPath path ++
    match member.kind with
    | .file bytes => headerBlock path 0o644 bytes.length 48 ++ contentBlocks bytes
    | .directory => headerBlock path 0o755 0 53
    | .link => headerBlock path 0o777 0 50

/-- The packed archive of members. -/
def write (members : List ArchiveMember) : List UInt8 :=
  pack (members.flatMap memberBlocks ++ List.replicate (2 * tapeBlock) 0)

end NfvCatalog.Archive
