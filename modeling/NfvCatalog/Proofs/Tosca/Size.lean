import Mathlib.Order.Bounds.Defs
import NfvCatalog.Proofs.Number.Whole
import NfvCatalog.Proofs.Outcome
import NfvCatalog.Proofs.Text.Blank
import NfvCatalog.Translation.Property

/-! # Whole sizes

A whole number with a unit behind it is read as that number of the unit if the bytes fit into a
word, and refused otherwise. Digits that no word holds are an exception: they are read in floating
point, where all but the very largest stand for the greatest word. A size that was written from a
word is read back as itself.
-/

namespace NfvCatalog.Tosca

/-! ## Units in text -/

/-- A text behind a number stands for a unit: it is the name of the unit in any letter case, or
there is none and the unit is the given one. -/
def SizeUnit.Spelled (given : SizeUnit) (suffix : String) (unit : SizeUnit) : Prop :=
  (suffix = "" ∧ unit = given) ∨ Text.asciiLower suffix = unit.lowerName

instance (given : SizeUnit) (suffix : String) (unit : SizeUnit) :
    Decidable (given.Spelled suffix unit) := inferInstanceAs (Decidable (_ ∨ _))

theorem SizeUnit.ofName?_of_lowerName {name : String} {unit : SizeUnit}
    (named : Text.asciiLower name = unit.lowerName) : SizeUnit.ofName? name = some unit := by
  rw [SizeUnit.ofName?, named]
  cases unit <;> decide

/-- A letter is neither a blank nor part of a number, whatever its case. -/
private theorem plain_of_isLower_toLower {c : Char} (letter : c.toLower.isLower = true) :
    Text.isBlank c = false ∧ isSizeDigit c = false := by
  have small : c.toNat < 128 := by
    by_cases upper : c.val ≥ 'A'.val ∧ c.val ≤ 'Z'.val
    · exact Nat.lt_of_le_of_lt (UInt32.le_iff_toNat_le.mp upper.2) (by decide)
    · rw [Char.toLower.eq_def, dif_neg upper] at letter
      have below : c.val ≤ 'z'.val := of_decide_eq_true (Bool.and_eq_true_iff.mp letter).2
      exact Nat.lt_of_le_of_lt (UInt32.le_iff_toNat_le.mp below) (by decide)
  let isPlain (c : Char) : Prop := c.toLower.isLower = true →
    Text.isBlank c = false ∧ isSizeDigit c = false
  have own : isPlain c := Text.of_ascii (by decide +kernel) small
  exact own letter

theorem plain_of_lowerName {suffix : String} {unit : SizeUnit}
    (named : Text.asciiLower suffix = unit.lowerName) :
    ∀ c ∈ suffix.toList, Text.isBlank c = false ∧ isSizeDigit c = false := by
  intro c member
  have letters : unit.lowerName.toList.all Char.isLower = true := by cases unit <;> decide
  rw [← named, Text.asciiLower, String.toList_ofList, List.all_map, List.all_eq_true] at letters
  exact plain_of_isLower_toLower (letters c member)

theorem isSizeDigit_eq_false_of_isBlank {c : Char} (blank : Text.isBlank c = true) :
    isSizeDigit c = false := by
  rw [isSizeDigit, Bool.or_eq_false_iff]
  refine ⟨Bool.eq_false_iff.mpr fun digit => ?_, decide_eq_false ?_⟩
  · rw [Text.isBlank_eq_false_of_isDigit digit] at blank
    cases blank
  · rintro rfl
    exact absurd blank (by decide)

/-! ## Numbers with units -/

/-- A size is read as its number in the unit that stands behind it, wherever blanks stand. -/
theorem parseSize?_spelled {front gap back suffix : String} {digits : List Char}
    {given unit : SizeUnit} (before : Text.Blank front) (between : Text.Blank gap)
    (behind : Text.Blank back) (nonempty : digits ≠ []) (isDigits : ∀ c ∈ digits, c.isDigit = true)
    (spelled : given.Spelled suffix unit) :
    parseSize? (front ++ String.ofList digits ++ gap ++ suffix ++ back) given =
      numberBytes? (String.ofList digits) unit := by
  have plain : ∀ c ∈ suffix.toList, Text.isBlank c = false ∧ isSizeDigit c = false := by
    obtain ⟨rfl, -⟩ | named := spelled
    · simp
    · exact plain_of_lowerName named
  -- What stands behind the digits, and what is left of it.
  let rest := gap.toList ++ suffix.toList ++ back.toList
  have chars : (front ++ String.ofList digits ++ gap ++ suffix ++ back).toList =
      front.toList ++ (digits ++ rest) := by simp [rest]
  have other : ∀ c ∈ rest, isSizeDigit c = false := by
    simp only [rest, List.mem_append]
    rintro c ((blank | named) | blank)
    · exact isSizeDigit_eq_false_of_isBlank (between c blank)
    · exact (plain c named).2
    · exact isSizeDigit_eq_false_of_isBlank (behind c blank)
  have left : Text.trimChars (Text.dropTrailingBlanks rest) = suffix.toList := by
    rw [Text.trimChars_dropTrailingBlanks, Text.trimChars_append between behind]
    exact Text.trimChars_eq_self (fun c first => (plain c (List.mem_of_mem_head? first)).1)
      fun c last => (plain c (List.mem_of_getLast? last)).1
  have trimmed := Text.trimChars_append_of_shown before nonempty
    (fun c member => Text.isBlank_eq_false_of_isDigit (isDigits c member)) rest
  have sizeDigits : ∀ c ∈ digits, isSizeDigit c = true := fun c member => by
    simp [isSizeDigit, isDigits c member]
  have kept : ∀ c ∈ Text.dropTrailingBlanks rest, ¬ isSizeDigit c = true := fun c member => by
    simp [other c ((List.rdropWhile_prefix Text.isBlank rest).subset member)]
  have number : (digits ++ Text.dropTrailingBlanks rest).takeWhile isSizeDigit = digits := by
    rw [List.takeWhile_append_of_pos sizeDigits,
      List.takeWhile_eq_nil_iff.mpr fun inside => kept _ (List.get_mem _ ⟨0, inside⟩),
      List.append_nil]
  have tail : (digits ++ Text.dropTrailingBlanks rest).dropWhile isSizeDigit =
      Text.dropTrailingBlanks rest := by
    rw [List.dropWhile_append_of_pos sizeDigits,
      List.dropWhile_eq_self_iff.mpr fun inside => kept _ (List.get_mem _ ⟨0, inside⟩)]
  simp only [parseSize?, chars, trimmed, number, tail, left]
  obtain ⟨rfl, rfl⟩ | named := spelled
  · rfl
  · have written : suffix.toList.isEmpty = false := by
      rw [List.isEmpty_eq_false_iff, ne_eq, String.toList_eq_nil_iff]
      rintro rfl
      revert named
      cases unit <;> decide
    rw [String.ofList_toList, SizeUnit.ofName?_of_lowerName named, written]
    rfl

/-! ## Whole numbers -/

/-- The bytes that a text stands for, if they fit into a word; the text is refused otherwise. -/
def exactSize (text : String) (bytes : Nat) : Except TemplateError UInt64 :=
  if bytes < UInt64.size then .ok (UInt64.ofNat bytes) else .error (.invalidSize text)

/-- No word holds the number, but it is not so large either that it is rounded to infinity. -/
def Saturates (n : Nat) : Prop := UInt64.size ≤ n ∧ n < Binary64.overflowPoint

instance (n : Nat) : Decidable (Saturates n) := inferInstanceAs (Decidable (_ ∧ _))

theorem one_le_bytes (unit : SizeUnit) : 1 ≤ unit.bytes := by cases unit <;> decide

/-- Units are floating-point numbers, with all 53 bits. -/
theorem ofNat_bytes (unit : SizeUnit) : Binary64.ofNat unit.bytes =
    .finite false (unit.bytes * Nat.pow 2 (52 - unit.bytes.log2))
      (-(52 - unit.bytes.log2 : Nat)) := by
  cases unit <;> decide +kernel

/-- Digits that no word holds stand for the greatest word in any unit, unless they are infinite. -/
theorem fractionalBytes?_large {digits : List Char} (nonempty : digits ≠ [])
    (isDigits : ∀ c ∈ digits, c.isDigit = true)
    (large : UInt64.size ≤ Nat.ofDigitChars 10 digits 0) (unit : SizeUnit) :
    (fractionalBytes? (String.ofList digits) unit = none ∧
        Binary64.overflowPoint ≤ Nat.ofDigitChars 10 digits 0) ∨
      (fractionalBytes? (String.ofList digits) unit = some (UInt64.ofNat (UInt64.size - 1)) ∧
        Nat.ofDigitChars 10 digits 0 < Binary64.overflowPoint) := by
  rw [fractionalBytes?, Binary64.ofText?_of_isDigit nonempty isDigits]
  obtain ⟨infinite, beyond⟩ | ⟨huge, below⟩ := Binary64.ofDecimal_large large
  · simp only [infinite]
    exact .inl ⟨rfl, beyond⟩
  · refine .inr ⟨?_, below⟩
    have least : Nat.pow 2 (52 - unit.bytes.log2) ≤
        unit.bytes * Nat.pow 2 (52 - unit.bytes.log2) :=
      Nat.le_mul_of_pos_left _ (one_le_bytes unit)
    have product := huge.mul least
    rw [← ofNat_bytes] at product
    simp only [huge.isFinite, if_true]
    obtain infinite | huge := product
    · rw [infinite]
      rfl
    · obtain ⟨n, rounded, large⟩ := huge.ceil?
      simp only [rounded]
      rw [Nat.min_eq_right (by omega)]

/-- Digits in a unit are read as the greatest word if they saturate, and else as the bytes that they
stand for, if these fit into a word. -/
theorem numberBytes?_of_isDigit {digits : List Char} (nonempty : digits ≠ [])
    (isDigits : ∀ c ∈ digits, c.isDigit = true) (unit : SizeUnit) :
    numberBytes? (String.ofList digits) unit =
      if Saturates (Nat.ofDigitChars 10 digits 0) then some (UInt64.ofNat (UInt64.size - 1))
      else if Nat.ofDigitChars 10 digits 0 * unit.bytes < UInt64.size then
        some (UInt64.ofNat (Nat.ofDigitChars 10 digits 0 * unit.bytes))
      else none := by
  have large := fractionalBytes?_large nonempty isDigits
  rw [numberBytes?, Digits.word?_of_isDigit nonempty isDigits]
  generalize Nat.ofDigitChars 10 digits 0 = n at large ⊢
  by_cases fits : n < UInt64.size
  · have whole : (UInt64.ofNat n).toNat = n := Nat.mod_eq_of_lt fits
    rw [if_pos fits, if_neg fun saturates => absurd saturates.1 (by omega)]
    simp only [whole]
  · have product : n ≤ n * unit.bytes := Nat.le_mul_of_pos_right _ (one_le_bytes unit)
    rw [if_neg fits, if_neg (by omega : ¬ n * unit.bytes < UInt64.size)]
    obtain ⟨refused, beyond⟩ | ⟨greatest, below⟩ := large (Nat.not_lt.mp fits) unit
    · rw [if_neg fun saturates => absurd saturates.2 (by omega)]
      exact refused
    · rw [if_pos ⟨Nat.not_lt.mp fits, below⟩]
      exact greatest

/-- A text is a whole number of a unit: digits and what stands for the unit, with blanks around and
between them. -/
inductive WholeSize (given : SizeUnit) : String → Nat → SizeUnit → Prop
  | mk {front digits gap suffix back : String} {unit : SizeUnit} (before : Text.Blank front)
      (between : Text.Blank gap) (behind : Text.Blank back) (nonempty : digits ≠ "")
      (isDigits : ∀ c ∈ digits.toList, c.isDigit = true) (spelled : given.Spelled suffix unit) :
      WholeSize given (front ++ digits ++ gap ++ suffix ++ back)
        (Nat.ofDigitChars 10 digits.toList 0) unit

section WholeSize

variable {given unit : SizeUnit} {text : String} {n : Nat}

theorem WholeSize.parseSize_eq (written : WholeSize given text n unit) :
    parseSize text given =
      if Saturates n then .ok (UInt64.ofNat (UInt64.size - 1))
      else exactSize text (n * unit.bytes) := by
  obtain ⟨before, between, behind, nonempty, isDigits, spelled⟩ := written
  have nonempty := mt String.toList_eq_nil_iff.mp nonempty
  have read := parseSize?_spelled before between behind nonempty isDigits spelled
  rw [numberBytes?_of_isDigit nonempty isDigits, String.ofList_toList] at read
  rw [parseSize, read, exactSize]
  split_ifs <;> rfl

/-- A whole number of a unit is read as exactly the bytes that it stands for, or refused if they do
not fit into a word, except where the number saturates: then the size is the greatest word. -/
theorem parseSize_whole (written : WholeSize given text n unit) :
    (parseSize text given = exactSize text (n * unit.bytes) ↔ ¬ Saturates n) ∧
      (Saturates n → parseSize text given = .ok (UInt64.ofNat (UInt64.size - 1))) := by
  have read := written.parseSize_eq
  by_cases saturates : Saturates n
  · rw [if_pos saturates] at read
    have product : n ≤ n * unit.bytes := Nat.le_mul_of_pos_right _ (one_le_bytes unit)
    have tooLarge : ¬ n * unit.bytes < UInt64.size :=
      Nat.not_lt.mpr (saturates.1.trans product)
    refine ⟨⟨fun same => ?_, fun free => absurd saturates free⟩, fun _ => read⟩
    rw [read, exactSize, if_neg tooLarge] at same
    cases same
  · rw [if_neg saturates] at read
    exact ⟨iff_of_true read saturates, fun claimed => absurd claimed saturates⟩

end WholeSize

/-- The number of words saturates: although no word holds it, it is read as one. -/
theorem parseSize_words :
    WholeSize .b "\t18446744073709551616 kIb\n" UInt64.size .kib ∧ Saturates UInt64.size ∧
      parseSize "\t18446744073709551616 kIb\n" .b = .ok 18446744073709551615 := by
  have written : WholeSize .b "\t18446744073709551616 kIb\n" UInt64.size .kib :=
    @WholeSize.mk .b "\t" "18446744073709551616" " " "kIb" "\n" .kib (by decide) (by decide)
      (by decide) (by decide) (List.all_eq_true.mp (by decide)) (by decide)
  have saturates : Saturates UInt64.size := by decide +kernel
  exact ⟨written, saturates, (parseSize_whole written).2 saturates⟩

/-- A word, a space and the name of a unit are read as exactly the product. -/
theorem parseSize_toString (n : UInt64) {given unit : SizeUnit} {name : String}
    (spelled : given.Spelled name unit) :
    parseSize (toString n ++ " " ++ name) given =
      exactSize (toString n ++ " " ++ name) (n.toNat * unit.bytes) := by
  have chars : (toString n).toList = Nat.toDigits 10 n.toNat := Nat.toList_repr
  have nonempty : toString n ≠ "" := fun none =>
    Nat.toDigits_ne_nil (chars ▸ String.toList_eq_nil_iff.mpr none)
  have isDigits : ∀ c ∈ (toString n).toList, c.isDigit = true := fun c member =>
    Nat.isDigit_of_mem_toDigits (by decide) (by decide) (chars ▸ member)
  have written := @WholeSize.mk given "" (toString n) " " name "" unit (by decide) (by decide)
    (by decide) nonempty isDigits spelled
  rw [chars, Nat.ofDigitChars_ten_toDigits, String.empty_append, String.append_empty] at written
  rw [written.parseSize_eq, if_neg fun saturates =>
    absurd saturates.1 (Nat.not_le.mpr n.toNat_lt_size)]

/-! ## Sizes in a unit -/

/-- Bytes are rounded up to the least number of units that covers them. -/
theorem isLeast_bytesTo (bytes : UInt64) (unit : SizeUnit) :
    IsLeast {k : Nat | bytes.toNat ≤ k * unit.bytes} (bytesTo bytes unit).toNat := by
  have positive := one_le_bytes unit
  have few : (bytes.toNat + (unit.bytes - 1)) / unit.bytes ≤ bytes.toNat := by
    rw [← Nat.lt_succ_iff, Nat.div_lt_iff_lt_mul positive, Nat.succ_mul]
    have more : bytes.toNat ≤ bytes.toNat * unit.bytes := Nat.le_mul_of_pos_right _ positive
    omega
  have exact_units : (bytesTo bytes unit).toNat =
      (bytes.toNat + (unit.bytes - 1)) / unit.bytes :=
    Nat.mod_eq_of_lt (few.trans_lt bytes.toNat_lt_size)
  rw [exact_units]
  constructor
  · have whole := Nat.lt_div_mul_add (a := bytes.toNat + (unit.bytes - 1)) positive
    rw [Set.mem_ofPred_eq]
    omega
  · intro k covers
    rw [← Nat.lt_succ_iff, Nat.div_lt_iff_lt_mul positive, Nat.succ_mul]
    rw [Set.mem_ofPred_eq] at covers
    omega

/-- Bytes that are a multiple of a unit are that multiple. -/
theorem bytesTo_mul (n : UInt64) (unit : SizeUnit) (fits : n.toNat * unit.bytes < UInt64.size) :
    bytesTo (UInt64.ofNat (n.toNat * unit.bytes)) unit = n := by
  have exact_bytes : (UInt64.ofNat (n.toNat * unit.bytes)).toNat = n.toNat * unit.bytes :=
    Nat.mod_eq_of_lt fits
  have least := isLeast_bytesTo (UInt64.ofNat (n.toNat * unit.bytes)) unit
  rw [exact_bytes] at least
  refine UInt64.toNat_inj.mp (least.unique ⟨Nat.le_refl _, fun k covers => ?_⟩)
  exact Nat.le_of_mul_le_mul_right covers (one_le_bytes unit)

end NfvCatalog.Tosca

namespace NfvCatalog.Translation

open Tosca

private theorem sizeIn_toString (n : UInt64) {unit : SizeUnit} {name : String} (entity key : String)
    (named : Text.asciiLower name = unit.lowerName) :
    sizeIn (.string (toString n ++ " " ++ name)) unit entity key =
      if n.toNat * unit.bytes < UInt64.size then .ok n
      else .error (.invalidProperty entity key
        (.notSize (.invalidSize (toString n ++ " " ++ name)))) := by
  have read : parseSize (toString n ++ " " ++ name) unit =
      exactSize (toString n ++ " " ++ name) (n.toNat * unit.bytes) :=
    parseSize_toString n (.inr named)
  by_cases fits : n.toNat * unit.bytes < UInt64.size
  · simp only [sizeIn, parseSizeValue, read, exactSize, fits, if_true, bytesTo_mul n unit fits]
  · simp only [sizeIn, parseSizeValue, read, exactSize, fits, if_false]

/-- A written number of megabytes is read as itself if its bytes fit into a word, and refused
otherwise. -/
theorem sizeIn_formatMb (n : UInt64) (entity key : String) :
    sizeIn (.string (formatMb n)) .mb entity key =
      if n.toNat * SizeUnit.mb.bytes < UInt64.size then .ok n
      else .error (.invalidProperty entity key (.notSize (.invalidSize (formatMb n)))) := by
  have written : formatMb n = toString n ++ " " ++ "MB" := by
    rw [formatMb, String.append_assoc]
    rfl
  rw [written]
  exact sizeIn_toString n entity key (by decide)

/-- A written number of gigabytes is read as itself if its bytes fit into a word, and refused
otherwise. -/
theorem sizeIn_formatGb (n : UInt64) (entity key : String) :
    sizeIn (.string (formatGb n)) .gb entity key =
      if n.toNat * SizeUnit.gb.bytes < UInt64.size then .ok n
      else .error (.invalidProperty entity key (.notSize (.invalidSize (formatGb n)))) := by
  have written : formatGb n = toString n ++ " " ++ "GB" := by
    rw [formatGb, String.append_assoc]
    rfl
  rw [written]
  exact sizeIn_toString n entity key (by decide)

/-- A flavor's memory and storage are read back as they were written, or refused if their bytes do
not fit into a word; and every size that can be read is rounded up to the least number of units that
covers it. -/
theorem sizeIn_covers (entity key : String) :
    (∀ n : UInt64, sizeIn (.string (formatMb n)) .mb entity key =
      if n.toNat * SizeUnit.mb.bytes < UInt64.size then .ok n
      else .error (.invalidProperty entity key (.notSize (.invalidSize (formatMb n))))) ∧
    (∀ n : UInt64, sizeIn (.string (formatGb n)) .gb entity key =
      if n.toNat * SizeUnit.gb.bytes < UInt64.size then .ok n
      else .error (.invalidProperty entity key (.notSize (.invalidSize (formatGb n))))) ∧
    ∀ (value : Value) (unit : SizeUnit) (bytes : UInt64), parseSizeValue value unit = .ok bytes →
      ∃ k, sizeIn value unit entity key = .ok k ∧
        IsLeast {m : Nat | bytes.toNat ≤ m * unit.bytes} k.toNat := by
  refine ⟨fun n => sizeIn_formatMb n entity key, fun n => sizeIn_formatGb n entity key, ?_⟩
  intro value unit bytes parsed
  exact ⟨bytesTo bytes unit, by rw [sizeIn, parsed], isLeast_bytesTo bytes unit⟩

/-- A gibibyte needs 1074 megabytes. -/
theorem gibibyte_covered :
    parseSizeValue (.string "1 GiB") .mb = .ok 1073741824 ∧
      sizeIn (.string "1 GiB") .mb "vm" "virtual_mem_size" = .ok 1074 ∧
      IsLeast {m : Nat | 1073741824 ≤ m * SizeUnit.mb.bytes} 1074 := by
  have parsed : parseSizeValue (.string "1 GiB") .mb = .ok 1073741824 :=
    toOption_eq_some.mp (by decide +kernel)
  have read : sizeIn (.string "1 GiB") .mb "vm" "virtual_mem_size" = .ok 1074 :=
    toOption_eq_some.mp (by decide +kernel)
  obtain ⟨k, same, least⟩ := (sizeIn_covers "vm" "virtual_mem_size").2.2 _ _ _ parsed
  obtain rfl : 1074 = k := Except.ok.inj (read.symm.trans same)
  exact ⟨parsed, read, least⟩

end NfvCatalog.Translation
