import NfvCatalog.Number.Digits
import NfvCatalog.Text.Utf8

/-! # Digests

Files are told apart by the hashes of their bytes.
-/

/-! ## SHA-256

The hash function of FIPS 180-4 on lists of bytes: the message is padded to whole blocks of 64
bytes, and every block is mixed into a state of eight words.
-/

namespace NfvCatalog.Sha256

/-- The fractional parts of the cube roots of the first 64 primes. -/
def roundConstants : List UInt32 :=
  [0x428a2f98, 0x71374491, 0xb5c0fbcf, 0xe9b5dba5, 0x3956c25b, 0x59f111f1, 0x923f82a4, 0xab1c5ed5,
    0xd807aa98, 0x12835b01, 0x243185be, 0x550c7dc3, 0x72be5d74, 0x80deb1fe, 0x9bdc06a7, 0xc19bf174,
    0xe49b69c1, 0xefbe4786, 0x0fc19dc6, 0x240ca1cc, 0x2de92c6f, 0x4a7484aa, 0x5cb0a9dc, 0x76f988da,
    0x983e5152, 0xa831c66d, 0xb00327c8, 0xbf597fc7, 0xc6e00bf3, 0xd5a79147, 0x06ca6351, 0x14292967,
    0x27b70a85, 0x2e1b2138, 0x4d2c6dfc, 0x53380d13, 0x650a7354, 0x766a0abb, 0x81c2c92e, 0x92722c85,
    0xa2bfe8a1, 0xa81a664b, 0xc24b8b70, 0xc76c51a3, 0xd192e819, 0xd6990624, 0xf40e3585, 0x106aa070,
    0x19a4c116, 0x1e376c08, 0x2748774c, 0x34b0bcb5, 0x391c0cb3, 0x4ed8aa4a, 0x5b9cca4f, 0x682e6ff3,
    0x748f82ee, 0x78a5636f, 0x84c87814, 0x8cc70208, 0x90befffa, 0xa4506ceb, 0xbef9a3f7, 0xc67178f2]

/-- The state between blocks. -/
structure State where
  a : UInt32
  b : UInt32
  c : UInt32
  d : UInt32
  e : UInt32
  f : UInt32
  g : UInt32
  h : UInt32
deriving DecidableEq, Repr, Inhabited

namespace State

/-- The fractional parts of the square roots of the first eight primes. -/
def initial : State :=
  ⟨0x6a09e667, 0xbb67ae85, 0x3c6ef372, 0xa54ff53a, 0x510e527f, 0x9b05688c, 0x1f83d9ab, 0x5be0cd19⟩

/-- Word by word sums. -/
def add (x y : State) : State :=
  ⟨x.a + y.a, x.b + y.b, x.c + y.c, x.d + y.d, x.e + y.e, x.f + y.f, x.g + y.g, x.h + y.h⟩

/-- The words of a state in order. -/
def words (x : State) : List UInt32 := [x.a, x.b, x.c, x.d, x.e, x.f, x.g, x.h]

end State

/-- A word rotated to the right. -/
def rotate (n x : UInt32) : UInt32 := (x >>> n) ||| (x <<< (32 - n))

/-- One round: a word of the schedule and its constant are mixed into the state. -/
def round (x : State) (constant word : UInt32) : State :=
  let mixE := rotate 6 x.e ^^^ rotate 11 x.e ^^^ rotate 25 x.e
  let choice := (x.e &&& x.f) ^^^ (~~~x.e &&& x.g)
  let first := x.h + mixE + choice + constant + word
  let mixA := rotate 2 x.a ^^^ rotate 13 x.a ^^^ rotate 22 x.a
  let majority := (x.a &&& x.b) ^^^ (x.a &&& x.c) ^^^ (x.b &&& x.c)
  ⟨first + mixA + majority, x.a, x.b, x.c, x.d + first, x.e, x.f, x.g⟩

/-- The word that follows sixteen words of the schedule. -/
def nextWord (window : List UInt32) : UInt32 :=
  let at_ (i : Nat) : UInt32 := window[i]?.getD 0
  let small (x : UInt32) : UInt32 := rotate 7 x ^^^ rotate 18 x ^^^ (x >>> 3)
  let large (x : UInt32) : UInt32 := rotate 17 x ^^^ rotate 19 x ^^^ (x >>> 10)
  at_ 0 + small (at_ 1) + at_ 9 + large (at_ 14)

/-- Run rounds for the constants that are left; `window` holds the next sixteen words. -/
def rounds : List UInt32 → List UInt32 → State → State
  | [], _, x => x
  | constant :: constants, window, x =>
    rounds constants (window.tail ++ [nextWord window]) (round x constant (window.headD 0))

/-- The words of a block, the most significant byte first. -/
def wordsOf : List UInt8 → List UInt32
  | a :: b :: c :: d :: rest =>
    ((a.toUInt32 <<< 24) ||| (b.toUInt32 <<< 16) ||| (c.toUInt32 <<< 8) ||| d.toUInt32) ::
      wordsOf rest
  | _ => []

/-- Mix a block of 64 bytes into the state. -/
def compress (x : State) (block : List UInt8) : State :=
  x.add (rounds roundConstants (wordsOf block) x)

/-- The bytes that fill a message of a length up to whole blocks. -/
def padding (length : Nat) : List UInt8 :=
  let zeros := (119 - length % 64) % 64
  let bits := length * 8
  0x80 :: List.replicate zeros 0 ++
    (List.range 8).map fun i => UInt8.ofNat (bits / Nat.pow 256 (7 - i) % 256)

/-- Mix all blocks of a padded message; `count` is their number. -/
def compressAll : Nat → State → List UInt8 → State
  | 0, x, _ => x
  | count + 1, x, bytes => compressAll count (compress x (bytes.take 64)) (bytes.drop 64)

/-- The hash of a message, as a state. -/
def hash (message : List UInt8) : State :=
  let padded := message ++ padding message.length
  compressAll (padded.length / 64) .initial padded

end NfvCatalog.Sha256

/-! ## Hashes as texts

A digest is the SHA-256 hash of some bytes, written as 64 hexadecimal digits in lower case. Every
text of that form is a digest; a digest is read in any letter case.
-/

namespace NfvCatalog

/-- Whether a character is a hexadecimal digit in lower case. -/
def isLowerHex (c : Char) : Bool := c.isDigit || ('a' ≤ c && c ≤ 'f')

theorem isLowerHex_hexDigit (n : Nat) (small : n < 16) : isLowerHex (Digits.hexDigit n) := by
  have all : ∀ m : Fin 16, isLowerHex (Digits.hexDigit m.val) := by decide
  exact all ⟨n, small⟩

/-- The eight hexadecimal digits of a word. -/
def hexWord (word : UInt32) : List Char :=
  [28, 24, 20, 16, 12, 8, 4, 0].map fun shift => Digits.hexDigit (word.toNat / Nat.pow 2 shift % 16)

theorem length_hexWord (word : UInt32) : (hexWord word).length = 8 := rfl

theorem isLowerHex_of_mem_hexWord {word : UInt32} {c : Char} (mem : c ∈ hexWord word) :
    isLowerHex c := by
  simp only [hexWord, List.mem_map] at mem
  obtain ⟨shift, _, rfl⟩ := mem
  exact isLowerHex_hexDigit _ (Nat.mod_lt _ (by decide))

/-- A digest: 64 hexadecimal digits in lower case. -/
structure Digest where
  digits : List Char
  length_eq : digits.length = 64
  lower : ∀ c ∈ digits, isLowerHex c
deriving DecidableEq

/-- Why a text is not a digest. -/
inductive DigestError where
  | wrongLength (length : Nat)
  | notHex (text : String)
deriving DecidableEq, Repr, Inhabited

/-- The wording of a digest error. -/
def DigestError.message : DigestError → String
  | .wrongLength length => s!"invalid digest length: expected 64, got {length}"
  | .notHex text => "invalid hex in digest: " ++ text

namespace Digest

instance : Repr Digest := ⟨fun digest _ => repr (String.ofList digest.digits)⟩

/-- The text of a digest. -/
def text (digest : Digest) : String := String.ofList digest.digits

/-- The digest of bytes. -/
def ofBytes (bytes : List UInt8) : Digest where
  digits := (Sha256.hash bytes).words.flatMap hexWord
  length_eq := rfl
  lower := by
    intro c mem
    obtain ⟨word, _, inWord⟩ := List.mem_flatMap.mp mem
    exact isLowerHex_of_mem_hexWord inWord

/-- Read a digest. The length that counts is that in bytes. -/
def parse (text : String) : Except DigestError Digest :=
  if text.utf8ByteSize ≠ 64 then .error (.wrongLength text.utf8ByteSize)
  else
    let digits := text.toList.map Char.toLower
    if h : digits.length = 64 ∧ digits.all isLowerHex then
      .ok ⟨digits, h.1, List.all_eq_true.mp h.2⟩
    else .error (.notHex text)

end Digest

end NfvCatalog
