import Mathlib.Algebra.Order.Group.Nat
import Mathlib.Data.List.TakeWhile
import Mathlib.Data.Nat.Digits.Defs
import NfvCatalog.Number.Binary64
import NfvCatalog.Text.Blank

/-! # Whole numbers in text

Decimal digits, however many, are read as the number that they spell. Floating point rounds a number
that is too large for a word to one that is too large for a word as well, or to infinity. The second
is the case exactly from the middle between the greatest finite number and the next power of two on.
-/

/-! ## Digits -/

namespace NfvCatalog

namespace Text

theorem isBlank_eq_false_of_isDigit {c : Char} (digit : c.isDigit = true) : isBlank c = false := by
  simp only [Char.isDigit, Bool.and_eq_true, decide_eq_true_eq] at digit
  obtain ⟨least, greatest⟩ := digit
  have low : 48 ≤ c.toNat := least
  have high : c.toNat ≤ 57 := greatest
  simp only [isBlank]
  grind

end Text

namespace Digits

private theorem digit?_of_isDigit {c : Char} (digit : c.isDigit = true) :
    digit? c = some (c.toNat - '0'.toNat) ∧ c.toNat - '0'.toNat < 10 := by
  simp only [Char.isDigit, Bool.and_eq_true, decide_eq_true_eq] at digit
  have within : '0' ≤ c ∧ c ≤ '9' := digit
  have high : c.toNat ≤ 57 := digit.2
  refine ⟨by simp [digit?, within], ?_⟩
  have zero : '0'.toNat = 48 := rfl
  omega

/-- Digits are read as the number that they spell. -/
theorem append?_of_isDigit {cs : List Char} (digits : ∀ c ∈ cs, c.isDigit = true) (value : Nat) :
    append? 10 value cs = some (Nat.ofDigitChars 10 cs value) := by
  induction cs generalizing value with
  | nil => simp [append?]
  | cons c rest ih =>
    obtain ⟨read, small⟩ := digit?_of_isDigit (digits c (List.mem_cons_self ..))
    rw [append?, read, Nat.ofDigitChars_cons]
    simp only [small, if_true]
    rw [ih fun other member => digits other (List.mem_cons_of_mem _ member), Nat.mul_comm]

/-- A digit is no sign. -/
theorem not_sign_of_isDigit {c : Char} (digit : c.isDigit = true) : c ≠ '+' ∧ c ≠ '-' := by
  refine ⟨?_, ?_⟩ <;> rintro rfl <;> exact absurd digit (by decide)

variable {cs : List Char} (nonempty : cs ≠ []) (digits : ∀ c ∈ cs, c.isDigit = true)
include nonempty digits

theorem nat?_of_isDigit : nat? 10 cs = some (Nat.ofDigitChars 10 cs 0) := by
  cases cs with
  | nil => exact absurd rfl nonempty
  | cons c rest => rw [nat?, append?_of_isDigit digits]; simp

theorem unsigned?_of_isDigit : unsigned? 10 cs = some (Nat.ofDigitChars 10 cs 0) := by
  obtain ⟨c, rest, rfl⟩ := List.exists_cons_of_ne_nil nonempty
  have unsigned := (not_sign_of_isDigit (digits c (List.mem_cons_self ..))).1
  rw [unsigned?, nat?_of_isDigit nonempty digits]
  exact fun _ same => unsigned (List.cons.inj same).1

/-- Digits are read as a word if the number that they spell is one. -/
theorem word?_of_isDigit : word? (String.ofList cs) =
    if Nat.ofDigitChars 10 cs 0 < UInt64.size then
      some (UInt64.ofNat (Nat.ofDigitChars 10 cs 0))
    else none := by
  rw [word?, String.toList_ofList, unsigned?_of_isDigit nonempty digits]

end Digits

end NfvCatalog

/-! ## Rounding -/

namespace NfvCatalog.Binary64

/-- The least ratio that is rounded to infinity: half a step above the greatest finite number. -/
def overflowPoint : Nat := (4 * leastFull - 1) * Nat.pow 2 970

example : overflowPoint = Nat.pow 2 1024 - Nat.pow 2 970 := by decide +kernel

/-! ### Quotients -/

theorem roundQuotient_cases (numerator denominator : Nat) :
    (roundQuotient numerator denominator = numerator / denominator ∧
        2 * (numerator % denominator) ≤ denominator) ∨
      (roundQuotient numerator denominator = numerator / denominator + 1 ∧
        denominator ≤ 2 * (numerator % denominator)) := by
  rw [roundQuotient]
  split
  · next up => exact .inr ⟨rfl, by omega⟩
  · next down => exact .inl ⟨rfl, by omega⟩

/-- A quotient with all 53 bits keeps them when it is rounded, or reaches the next power. -/
theorem roundQuotient_full {numerator denominator : Nat}
    (low : leastFull * denominator ≤ numerator) (high : numerator < 2 * leastFull * denominator) :
    leastFull ≤ roundQuotient numerator denominator ∧
      roundQuotient numerator denominator ≤ 2 * leastFull := by
  have positive : 0 < denominator := Nat.pos_of_mul_pos_left (Nat.zero_lt_of_lt high)
  have least := (Nat.le_div_iff_mul_le positive).mpr low
  have greatest := (Nat.div_lt_iff_lt_mul positive).mpr high
  obtain ⟨down, -⟩ | ⟨up, -⟩ := roundQuotient_cases numerator denominator <;> omega

/-- The next power is reached exactly from half a step below it on: the last significand before it
is odd, so that a tie goes up. -/
theorem roundQuotient_eq_carry_iff {numerator denominator : Nat}
    (high : numerator < 2 * leastFull * denominator) :
    roundQuotient numerator denominator = 2 * leastFull ↔
      (4 * leastFull - 1) * denominator ≤ 2 * numerator := by
  have positive : 0 < denominator := Nat.pos_of_mul_pos_left (Nat.zero_lt_of_lt high)
  have greatest := (Nat.div_lt_iff_lt_mul positive).mpr high
  have whole := Nat.div_add_mod numerator denominator
  have small := Nat.mod_lt numerator positive
  simp only [leastFull] at greatest ⊢
  obtain last | lower : numerator / denominator = 2 * 0x10000000000000 - 1 ∨
      numerator / denominator + 1 ≤ 2 * 0x10000000000000 - 1 := by omega
  · rw [last] at whole
    rw [roundQuotient]
    simp only [last, and_true]
    split <;> omega
  · have below := Nat.mul_le_mul_left denominator lower
    have short : roundQuotient numerator denominator ≤ numerator / denominator + 1 := by
      obtain ⟨down, -⟩ | ⟨up, -⟩ := roundQuotient_cases numerator denominator <;> omega
    rw [Nat.mul_add_one] at below
    omega

/-! ### Ratios that no word holds -/

theorem scaleDown_natCast (numerator denominator power : Nat) :
    scaleDown numerator denominator power = (numerator, denominator * Nat.pow 2 power) := by
  rw [scaleDown, if_neg (by omega), Int.natAbs_natCast]

/-- The exponent is what the numbers of bits suggest, if the quotient has all 53 bits then. -/
theorem ofRatio_of_full {numerator denominator power : Nat} (negative : Bool)
    (nonzero : numerator ≠ 0)
    (guess : (numerator.log2 : Int) - denominator.log2 - 52 = power)
    (full : ¬ numerator / (denominator * Nat.pow 2 power) < leastFull) :
    ofRatio negative numerator denominator = normalize negative
      (roundQuotient numerator (denominator * Nat.pow 2 power)) power := by
  rw [ofRatio, if_neg nonzero]
  simp only [guess, scaleDown_natCast, if_neg full]
  rw [Int.max_eq_left (by simp only [leastExponent]; omega), scaleDown_natCast]

/-- The exponent is one less if the quotient lacks a bit. -/
theorem ofRatio_of_short {numerator denominator power : Nat} (negative : Bool)
    (nonzero : numerator ≠ 0)
    (guess : (numerator.log2 : Int) - denominator.log2 - 52 = (power + 1 : Nat))
    (short : numerator / (denominator * Nat.pow 2 (power + 1)) < leastFull) :
    ofRatio negative numerator denominator = normalize negative
      (roundQuotient numerator (denominator * Nat.pow 2 power)) power := by
  have less : ((power + 1 : Nat) : Int) - 1 = power := by omega
  rw [ofRatio, if_neg nonzero]
  simp only [guess, scaleDown_natCast, if_pos short, less]
  rw [Int.max_eq_left (by simp only [leastExponent]; omega), scaleDown_natCast]

/-- A ratio that is too large for a word is scaled to a quotient with all 53 bits by a positive
power of two, and that quotient is rounded. -/
theorem ofRatio_eq_normalize {numerator denominator : Nat} (negative : Bool)
    (positive : 0 < denominator) (large : UInt64.size * denominator ≤ numerator) :
    ∃ power : Nat, 12 ≤ power ∧ leastFull * (denominator * Nat.pow 2 power) ≤ numerator ∧
      numerator < 2 * leastFull * (denominator * Nat.pow 2 power) ∧
      ofRatio negative numerator denominator = normalize negative
        (roundQuotient numerator (denominator * Nat.pow 2 power)) power := by
  have nonzero : numerator ≠ 0 := by
    rintro rfl
    simp only [UInt64.size] at large
    omega
  have above := Nat.log2_self_le nonzero
  have below := Nat.lt_log2_self (n := numerator)
  have aboveDenominator := Nat.log2_self_le (Nat.ne_of_gt positive)
  have belowDenominator := Nat.lt_log2_self (n := denominator)
  -- The exponents of the leading digits are at least 64 apart.
  have apart : denominator.log2 + 64 ≤ numerator.log2 := by
    rw [Nat.le_log2 nonzero, Nat.pow_add, Nat.mul_comm]
    exact (Nat.mul_le_mul_left UInt64.size aboveDenominator).trans large
  obtain ⟨more, exponent⟩ := Nat.exists_eq_add_of_le apart
  have guess : (numerator.log2 : Int) - denominator.log2 - 52 = (more + 12 : Nat) := by omega
  have scaled (power : Nat) : 0 < denominator * Nat.pow 2 power :=
    Nat.mul_pos positive (Nat.pow_pos (by decide))
  have full : leastFull = 2 ^ 52 := rfl
  by_cases short : numerator / (denominator * Nat.pow 2 (more + 12)) < leastFull
  · have high := (Nat.div_lt_iff_lt_mul (scaled _)).mp short
    -- A ratio just above all words has all 53 bits at once.
    obtain ⟨less, rfl⟩ : ∃ less, more = less + 1 := by
      refine Nat.exists_eq_add_one.mpr (Nat.pos_of_ne_zero ?_)
      rintro rfl
      have first : Nat.pow 2 (0 + 12) = 4096 := rfl
      simp only [UInt64.size, leastFull, first] at large high
      omega
    have shift : less + 1 + 12 = less + 12 + 1 := by omega
    rw [shift] at guess short high
    refine ⟨less + 12, Nat.le_add_left .., ?_, ?_, ofRatio_of_short negative nonzero guess short⟩
    · calc leastFull * (denominator * 2 ^ (less + 12))
        _ ≤ leastFull * (2 ^ (denominator.log2 + 1) * 2 ^ (less + 12)) :=
          Nat.mul_le_mul_left _ (Nat.mul_le_mul_right _ belowDenominator.le)
        _ = 2 ^ numerator.log2 := by
          rw [full, exponent, ← Nat.pow_add, ← Nat.pow_add]
          congr 1
          omega
        _ ≤ numerator := above
    · have doubled : Nat.pow 2 (less + 12 + 1) = 2 * Nat.pow 2 (less + 12) := Nat.pow_succ'
      rw [doubled] at high
      calc numerator
        _ < leastFull * (denominator * (2 * Nat.pow 2 (less + 12))) := high
        _ = 2 * leastFull * (denominator * Nat.pow 2 (less + 12)) := by
          rw [Nat.mul_left_comm denominator, ← Nat.mul_assoc, Nat.mul_comm leastFull]
  · refine ⟨more + 12, Nat.le_add_left .., ?_, ?_, ofRatio_of_full negative nonzero guess short⟩
    · exact (Nat.le_div_iff_mul_le (scaled _)).mp (Nat.not_lt.mp short)
    · calc numerator
        _ < 2 ^ (numerator.log2 + 1) := below
        _ = 2 * leastFull * (2 ^ denominator.log2 * 2 ^ (more + 12)) := by
          rw [full, exponent, ← Nat.pow_succ', ← Nat.pow_add, ← Nat.pow_add]
          congr 1
          omega
        _ ≤ 2 * leastFull * (denominator * 2 ^ (more + 12)) :=
          Nat.mul_le_mul_left _ (Nat.mul_le_mul_right _ aboveDenominator)

/-- A number that no word holds: a positive one with all 53 bits and a positive exponent. -/
inductive IsHuge : Binary64 → Prop
  | intro {significand power : Nat} (full : leastFull ≤ significand) (least : 12 ≤ power) :
    IsHuge (.finite false significand power)

/-- A significand with all 53 bits gives a number that no word holds, unless the exponent is too
large for the format. -/
theorem normalize_cases {significand power : Nat} (full : leastFull ≤ significand)
    (least : 12 ≤ power) :
    (normalize false significand power = .infinite false ∧
        (972 ≤ power ∨ power = 971 ∧ significand = 2 * leastFull)) ∨
      (IsHuge (normalize false significand power) ∧
        (power ≤ 970 ∨ power = 971 ∧ significand ≠ 2 * leastFull)) := by
  simp only [normalize, greatestExponent]
  by_cases carried : significand = 2 * leastFull
  · simp only [carried, if_true, and_true, ne_eq, not_true, and_false, or_false]
    split
    · exact .inl ⟨rfl, by omega⟩
    · exact .inr ⟨.intro Nat.le.refl (Nat.le_succ_of_le least), by omega⟩
  · simp only [carried, if_false]
    split
    · exact .inl ⟨rfl, by omega⟩
    · exact .inr ⟨.intro full least, by omega⟩

/-- A ratio that is too large for a word is rounded to infinity from the overflow point on, and to a
number that no word holds below it. -/
theorem ofRatio_large {numerator denominator : Nat} (positive : 0 < denominator)
    (large : UInt64.size * denominator ≤ numerator) :
    (ofRatio false numerator denominator = .infinite false ∧
        overflowPoint * denominator ≤ numerator) ∨
      (IsHuge (ofRatio false numerator denominator) ∧
        numerator < overflowPoint * denominator) := by
  obtain ⟨power, least, low, high, rounded⟩ := ofRatio_eq_normalize false positive large
  obtain ⟨full, -⟩ := roundQuotient_full low high
  have carry := roundQuotient_eq_carry_iff high
  rw [rounded]
  -- The exponent of the overflow point is a variable here, so that its power is not computed.
  obtain ⟨half, isHalf⟩ : ∃ half : Nat, half = 970 := ⟨970, rfl⟩
  have point : overflowPoint * denominator =
      (4 * leastFull - 1) * (denominator * Nat.pow 2 half) := by
    rw [overflowPoint, ← isHalf, Nat.mul_assoc, Nat.mul_comm (Nat.pow 2 half)]
  have double (power : Nat) :
      denominator * Nat.pow 2 (power + 1) = 2 * (denominator * Nat.pow 2 power) := by
    rw [show Nat.pow 2 (power + 1) = 2 * Nat.pow 2 power from Nat.pow_succ', Nat.mul_left_comm]
  have ordered {p q : Nat} (le : p ≤ q) : denominator * Nat.pow 2 p ≤ denominator * Nat.pow 2 q :=
    Nat.mul_le_mul_left _ (Nat.pow_le_pow_right (by decide) le)
  have step := double half
  rw [point]
  simp only [leastFull] at low high carry ⊢
  obtain ⟨infinite, beyond | ⟨last, carried⟩⟩ | ⟨huge, within | ⟨last, free⟩⟩ :=
    normalize_cases full least
  · have wide := ordered (show half + 1 + 1 ≤ power by omega)
    have twice := double (half + 1)
    exact .inl ⟨infinite, by omega⟩
  · obtain rfl : power = half + 1 := by omega
    have reached := carry.mp carried
    exact .inl ⟨infinite, by omega⟩
  · have narrow := ordered (show power ≤ half by omega)
    exact .inr ⟨huge, by omega⟩
  · obtain rfl : power = half + 1 := by omega
    have missed := mt carry.mpr free
    exact .inr ⟨huge, by omega⟩

/-! ### Products -/

/-- A significand with all 53 bits needs an exponent of 12 to leave the words behind. -/
theorem size_le_of_full {significand power : Nat} (full : leastFull ≤ significand)
    (least : 12 ≤ power) : UInt64.size ≤ significand * Nat.pow 2 power :=
  calc UInt64.size
    _ = leastFull * Nat.pow 2 12 := rfl
    _ ≤ significand * Nat.pow 2 power :=
      Nat.mul_le_mul full (Nat.pow_le_pow_right (by decide) least)

theorem IsHuge.isFinite {x : Binary64} (huge : IsHuge x) : x.isFinite = true := by
  cases huge
  rfl

theorem IsHuge.ceil? {x : Binary64} (huge : IsHuge x) :
    ∃ n, x.ceil? = some n ∧ UInt64.size ≤ n := by
  obtain ⟨full, least⟩ := huge
  refine ⟨_, ?_, size_le_of_full full least⟩
  rw [Binary64.ceil?, if_neg (by simp), if_neg (by omega), Int.natAbs_natCast]

/-- A product with a number that no word holds is not in a word either, if the other factor is not
below one. -/
theorem IsHuge.mul {x : Binary64} (huge : IsHuge x) {factor places : Nat}
    (least : Nat.pow 2 places ≤ factor) :
    x.mul (.finite false factor (-places)) = .infinite false ∨
      IsHuge (x.mul (.finite false factor (-places))) := by
  obtain @⟨significand, power, full, positive⟩ := huge
  have large := size_le_of_full full positive
  rw [Binary64.mul, ofScaled]
  split
  · next below =>
    have exponent : ((power : Int) + -places).natAbs = places - power := by omega
    have whole : places = power + (places - power) := by omega
    rw [exponent]
    refine (ofRatio_large (Nat.pow_pos (by decide)) ?_).imp And.left And.left
    calc UInt64.size * 2 ^ (places - power)
      _ ≤ significand * 2 ^ power * 2 ^ (places - power) := Nat.mul_le_mul_right _ large
      _ = significand * 2 ^ places := by rw [Nat.mul_assoc, ← Nat.pow_add, ← whole]
      _ ≤ significand * factor := Nat.mul_le_mul_left _ least
  · next above =>
    have exponent : ((power : Int) + -places).natAbs = power - places := by omega
    have whole : power = places + (power - places) := by omega
    rw [exponent]
    refine (ofRatio_large Nat.one_pos ?_).imp And.left And.left
    calc UInt64.size * 1
      _ ≤ significand * 2 ^ power := (Nat.mul_one _).trans_le large
      _ = significand * (2 ^ places * 2 ^ (power - places)) := by rw [← Nat.pow_add, ← whole]
      _ ≤ significand * (factor * 2 ^ (power - places)) :=
        Nat.mul_le_mul_left _ (Nat.mul_le_mul_right _ least)
      _ = significand * factor * 2 ^ (power - places) := (Nat.mul_assoc ..).symm

/-! ### Digits -/

/-- A whole number that no word holds is rounded to infinity from the overflow point on, and to a
number that no word holds below it. -/
theorem ofDecimal_large {n : Nat} (large : UInt64.size ≤ n) :
    (ofDecimal false n 0 = .infinite false ∧ overflowPoint ≤ n) ∨
      (IsHuge (ofDecimal false n 0) ∧ n < overflowPoint) := by
  have nonzero : n ≠ 0 := by
    rintro rfl
    exact absurd large (by decide)
  rw [ofDecimal]
  simp only [if_neg nonzero, Int.add_zero, Int.natAbs_zero]
  split
  · next long =>
    refine .inl ⟨rfl, Nat.not_lt.mp fun below => ?_⟩
    obtain ⟨places, most⟩ : ∃ places : Nat, places = 310 := ⟨310, rfl⟩
    have wide : overflowPoint ≤ Nat.pow 10 places := by
      subst most
      decide +kernel
    have short := Nat.toDigits_length 10 n places (by omega) (below.trans_le wide)
    omega
  · rw [if_neg (by omega), if_neg (by omega)]
    have rounded := ofRatio_large Nat.one_pos (by rwa [Nat.mul_one] : UInt64.size * 1 ≤ n)
    rw [Nat.mul_one] at rounded
    rwa [show n * Nat.pow 10 0 = n from Nat.mul_one n]

/-- Digits are the text of the number that they spell. -/
theorem ofText?_of_isDigit {cs : List Char} (nonempty : cs ≠ [])
    (digits : ∀ c ∈ cs, c.isDigit = true) :
    ofText? (String.ofList cs) = some (ofDecimal false (Nat.ofDigitChars 10 cs 0) 0) := by
  have parts : parts? cs = unsignedParts? false cs := by
    obtain ⟨c, rest, rfl⟩ := List.exists_cons_of_ne_nil nonempty
    obtain ⟨plus, minus⟩ := Digits.not_sign_of_isDigit (digits c (List.mem_cons_self ..))
    rw [parts?]
    · exact fun _ same => minus (List.cons.inj same).1
    · exact fun _ same => plus (List.cons.inj same).1
  have whole : cs.takeWhile Char.isDigit = cs := List.takeWhile_eq_self_iff.mpr digits
  have rest : cs.dropWhile Char.isDigit = [] := List.dropWhile_eq_nil_iff.mpr digits
  rw [ofText?, String.toList_ofList, parts, unsignedParts?]
  simp only [whole, rest, List.append_nil, Digits.nat?_of_isDigit nonempty digits, exponent?,
    List.length_nil, Option.map_some]
  rfl

end NfvCatalog.Binary64
