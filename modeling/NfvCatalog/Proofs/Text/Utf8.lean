import Mathlib.Tactic.IntervalCases
import NfvCatalog.Text.Utf8

/-! # Encoded text

The bytes of a text are decoded to the text, whether malformed bytes are refused or replaced.
-/

namespace NfvCatalog.Utf8

/-! ## The bytes of a text -/

private theorem toList_loop (bytes : ByteArray) (at_ : Nat) (done : List UInt8) :
    ByteArray.toList.loop bytes at_ done = done.reverse ++ bytes.data.toList.drop at_ := by
  fun_induction ByteArray.toList.loop bytes at_ done with
  | case1 at_ done inside ih =>
    have here : at_ < bytes.data.toList.length := by simpa using inside
    have byte : bytes.get! at_ = bytes.data.toList[at_] := by
      rw [ByteArray.get!, getElem!_pos bytes.data at_ inside, Array.getElem_toList]
    rw [ih, List.drop_eq_getElem_cons here, byte, List.reverse_cons, List.append_assoc,
      List.singleton_append]
  | case2 at_ done outside =>
    rw [List.drop_eq_nil_of_le (by simpa using Nat.le_of_not_lt outside)]
    simp

/-- The bytes of a text, as the bytes of its encoding. -/
theorem encode_eq (text : String) : encode text = text.toByteArray.data.toList := by
  rw [encode, String.toUTF8_eq_toByteArray, ByteArray.toList, toList_loop]
  simp

/-- The bytes of a text are those of its characters. -/
theorem encode_eq_flatMap (text : String) :
    encode text = text.toList.flatMap String.utf8EncodeChar := by
  rw [encode_eq, ← String.utf8Encode_toList, List.utf8Encode, List.toList_data_toByteArray]

/-- Well-formed bytes are decoded to their text. -/
theorem decode?_encode (text : String) : decode? (encode text) = some text := by
  have same : (⟨(encode text).toArray⟩ : ByteArray) = text.toByteArray := by
    rw [encode_eq, Array.toArray_toList]
  rw [decode?, String.fromUTF8?, same, dif_pos text.isValidUTF8]
  rfl

/-! ## Sequences of bytes -/

theorem toNat_and_continuation {n : Nat} (small : n < 64) :
    (UInt8.ofNat (n + 128) &&& 0x3F).toNat = n := by
  interval_cases n <;> rfl

/-- A byte that goes on a sequence adds its six bits. -/
theorem lossyAfter_continuation {pending : Pending} {n : Nat} (small : n < 64)
    (low : pending.low.toNat ≤ n + 128) (high : n + 128 ≤ pending.high.toNat)
    (rest : List UInt8) :
    lossyAfter (some pending) (UInt8.ofNat (n + 128) :: rest) =
      if pending.missing = 1 then Char.ofNat (pending.bits * 64 + n) :: lossyAfter none rest
      else lossyAfter (some ⟨pending.bits * 64 + n, pending.missing - 1, 0x80, 0xBF⟩) rest := by
  have number : (UInt8.ofNat (n + 128)).toNat = n + 128 :=
    UInt8.toNat_ofNat_of_lt' (Nat.lt_of_lt_of_le (by omega : n + 128 < 192) (by decide))
  have within : pending.low ≤ UInt8.ofNat (n + 128) ∧ UInt8.ofNat (n + 128) ≤ pending.high := by
    rw [UInt8.le_iff_toNat_le, UInt8.le_iff_toNat_le, number]
    exact ⟨low, high⟩
  rw [lossyAfter, if_pos within, toNat_and_continuation small]

/-- A first byte that asks for others starts a sequence. -/
theorem lossyAfter_lead {byte : UInt8} {lead : Lead} (known : lead? byte = some lead)
    (several : lead.following ≠ 0) (rest : List UInt8) :
    lossyAfter none (byte :: rest) =
      lossyAfter (some ⟨lead.bits, lead.following, lead.low, lead.high⟩) rest := by
  simp only [lossyAfter, start, known, several, if_false, List.nil_append]

/-- The bytes that start a sequence of two. -/
theorem lead?_two {n : Nat} (low : 2 ≤ n) (high : n < 32) :
    lead? (UInt8.ofNat (n + 192)) = some ⟨n, 1, 0x80, 0xBF⟩ := by
  interval_cases n <;> rfl

/-- The bytes that start a sequence of three. The second byte of the first one cannot be small,
that of the one before last cannot be great. -/
theorem lead?_three {n : Nat} (high : n < 16) :
    lead? (UInt8.ofNat (n + 224)) =
      some ⟨n, 2, if n = 0 then 0xA0 else 0x80, if n = 13 then 0x9F else 0xBF⟩ := by
  interval_cases n <;> rfl

/-- The bytes that start a sequence of four. -/
theorem lead?_four {n : Nat} (high : n < 5) :
    lead? (UInt8.ofNat (n + 240)) =
      some ⟨n, 3, if n = 0 then 0x90 else 0x80, if n = 4 then 0x8F else 0xBF⟩ := by
  interval_cases n <;> rfl

/-- The bytes of a character are decoded to it. -/
theorem lossyAfter_utf8EncodeChar (c : Char) (rest : List UInt8) :
    lossyAfter none (String.utf8EncodeChar c ++ rest) = c :: lossyAfter none rest := by
  have valid : c.toNat < 0xD800 ∨ 0xDFFF < c.toNat ∧ c.toNat < 0x110000 := c.valid
  have number : Char.ofNat c.toNat = c := Char.ofNat_toNat c
  rw [String.utf8EncodeChar, ← Char.toNat]
  generalize c.toNat = v at valid number
  split
  · next one =>
    have first : lead? (UInt8.ofNat v) = some ⟨v, 0, 0x80, 0xBF⟩ := by
      interval_cases v <;> rfl
    simp only [List.cons_append, List.nil_append, lossyAfter, start, first, if_true, number]
  split
  · next two =>
    have bits : v / 64 % 32 = v / 64 := by omega
    rw [bits, List.cons_append, List.cons_append, List.nil_append,
      lossyAfter_lead (lead?_two (by omega) (by omega)) (by simp),
      lossyAfter_continuation (by omega) (by simp) (by simp; omega), if_pos rfl]
    rw [show v / 64 * 64 + v % 64 = v by omega, number]
  split
  · next three =>
    have bits : v / 4096 % 16 = v / 4096 := by omega
    have low : (if v / 4096 = 0 then 0xA0 else 0x80 : UInt8).toNat ≤ v / 64 % 64 + 128 := by
      split
      · simp
        omega
      · simp
    have high : v / 64 % 64 + 128 ≤ (if v / 4096 = 13 then 0x9F else 0xBF : UInt8).toNat := by
      split
      · simp
        omega
      · simp
        omega
    rw [bits, List.cons_append, List.cons_append, List.cons_append, List.nil_append,
      lossyAfter_lead (lead?_three (by omega)) (by simp),
      lossyAfter_continuation (by omega) low high, if_neg (by simp),
      lossyAfter_continuation (by omega) (by simp) (by simp; omega), if_pos (by simp)]
    rw [show (v / 4096 * 64 + v / 64 % 64) * 64 + v % 64 = v by omega, number]
  · next four =>
    have bits : v / 262144 % 8 = v / 262144 := by omega
    have low : (if v / 262144 = 0 then 0x90 else 0x80 : UInt8).toNat ≤ v / 4096 % 64 + 128 := by
      split
      · simp
        omega
      · simp
    have high : v / 4096 % 64 + 128 ≤ (if v / 262144 = 4 then 0x8F else 0xBF : UInt8).toNat := by
      split
      · simp
        omega
      · simp
        omega
    rw [bits, List.cons_append, List.cons_append, List.cons_append, List.cons_append,
      List.nil_append, lossyAfter_lead (lead?_four (by omega)) (by simp),
      lossyAfter_continuation (by omega) low high, if_neg (by simp),
      lossyAfter_continuation (by omega) (by simp) (by simp; omega), if_neg (by simp),
      lossyAfter_continuation (by omega) (by simp) (by simp; omega), if_pos (by simp)]
    rw [show ((v / 262144 * 64 + v / 4096 % 64) * 64 + v / 64 % 64) * 64 + v % 64 = v by omega,
      number]

/-- The bytes of a text are decoded to it. -/
theorem lossy_encode (text : String) : lossy (encode text) = text := by
  have decoded (cs : List Char) :
      lossyAfter none (cs.flatMap String.utf8EncodeChar) = cs := by
    induction cs with
    | nil => rfl
    | cons c cs ih => rw [List.flatMap_cons, lossyAfter_utf8EncodeChar, ih]
  rw [lossy, encode_eq_flatMap, decoded, String.ofList_toList]

end NfvCatalog.Utf8
