/-! # Bytes and text

Text is stored as UTF-8. Decoding either refuses malformed bytes or puts a replacement character in
place of each longest malformed sequence.
-/

namespace NfvCatalog.Utf8

/-- The bytes of a text. -/
def encode (text : String) : List UInt8 := text.toUTF8.toList

/-- The text of well-formed bytes. -/
def decode? (bytes : List UInt8) : Option String := String.fromUTF8? ⟨bytes.toArray⟩

/-- The character for what cannot be decoded. -/
def replacement : Char := Char.ofNat 0xFFFD

/-- Whether a byte goes on a sequence of several. -/
def isContinuation (b : UInt8) : Bool := b &&& 0xC0 = 0x80

/-- What the first byte of a sequence asks for: the bits it carries, the number of bytes to follow,
and the range of the second byte. -/
structure Lead where
  bits : Nat
  following : Nat
  low : UInt8 := 0x80
  high : UInt8 := 0xBF

/-- The meaning of a first byte, if it can start a sequence. -/
def lead? (b : UInt8) : Option Lead :=
  if b < 0x80 then some ⟨b.toNat, 0, 0x80, 0xBF⟩
  else if 0xC2 ≤ b ∧ b ≤ 0xDF then some ⟨(b &&& 0x1F).toNat, 1, 0x80, 0xBF⟩
  else if b = 0xE0 then some ⟨0, 2, 0xA0, 0xBF⟩
  else if b = 0xED then some ⟨0xD, 2, 0x80, 0x9F⟩
  else if 0xE1 ≤ b ∧ b ≤ 0xEF then some ⟨(b &&& 0x0F).toNat, 2, 0x80, 0xBF⟩
  else if b = 0xF0 then some ⟨0, 3, 0x90, 0xBF⟩
  else if b = 0xF4 then some ⟨4, 3, 0x80, 0x8F⟩
  else if 0xF1 ≤ b ∧ b ≤ 0xF3 then some ⟨(b &&& 0x07).toNat, 3, 0x80, 0xBF⟩
  else none

/-- Bits of a sequence that is not complete yet. -/
structure Pending where
  bits : Nat
  missing : Nat
  low : UInt8
  high : UInt8

/-- Start a sequence with a byte, after the text decoded so far. -/
def start (b : UInt8) : List Char × Option Pending :=
  match lead? b with
  | none => ([replacement], none)
  | some lead =>
    if lead.following = 0 then ([Char.ofNat lead.bits], none)
    else ([], some ⟨lead.bits, lead.following, lead.low, lead.high⟩)

/-- Decode bytes after an incomplete sequence. -/
def lossyAfter : Option Pending → List UInt8 → List Char
  | none, [] => []
  | some _, [] => [replacement]
  | none, b :: rest =>
    let (done, pending) := start b
    done ++ lossyAfter pending rest
  | some pending, b :: rest =>
    if pending.low ≤ b ∧ b ≤ pending.high then
      let bits := pending.bits * 64 + (b &&& 0x3F).toNat
      if pending.missing = 1 then Char.ofNat bits :: lossyAfter none rest
      else lossyAfter (some ⟨bits, pending.missing - 1, 0x80, 0xBF⟩) rest
    else
      let (done, next) := start b
      replacement :: (done ++ lossyAfter next rest)

/-- The text of any bytes, with replacement characters for what is malformed. -/
def lossy (bytes : List UInt8) : String := String.ofList (lossyAfter none bytes)

end NfvCatalog.Utf8

/-! ## Texts of bytes

A text of bytes has one character for each byte, the one with the number of the byte. Scripts are
read and run on such texts, because their words may hold any bytes and are counted in bytes.
-/

namespace NfvCatalog.Octets

/-- The text of bytes. -/
def ofBytes (bytes : List UInt8) : String :=
  String.ofList (bytes.map fun byte => Char.ofNat byte.toNat)

/-- The bytes of a text of bytes. -/
def bytes (text : String) : List UInt8 := text.toList.map fun c => UInt8.ofNat c.toNat

theorem toNat_ofNat_byte (byte : UInt8) : (Char.ofNat byte.toNat).toNat = byte.toNat := by
  have valid : byte.toNat.isValidChar := .inl (Nat.lt_trans byte.toNat_lt (by decide))
  rw [Char.ofNat, dif_pos valid]
  rfl

/-- No byte is lost in its text. -/
theorem bytes_ofBytes (bytes : List UInt8) : Octets.bytes (ofBytes bytes) = bytes := by
  simp [Octets.bytes, ofBytes, List.map_map, Function.comp_def, toNat_ofNat_byte]

/-- The text of the bytes of a text. -/
def ofText (text : String) : String := ofBytes (Utf8.encode text)

/-- The text that a text of bytes spells, with replacement characters for what is malformed. -/
def decoded (text : String) : String := Utf8.lossy (bytes text)

end NfvCatalog.Octets
