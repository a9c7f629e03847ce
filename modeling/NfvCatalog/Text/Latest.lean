import NfvCatalog.Text.Property

/-! # The latest additions

The tables of categories and properties are those of version 16.0 of the standard, by which
expressions name sets. Version 17.0 only added characters to the sets below. Shown texts, domain
names and the names of groups follow it.
-/

namespace NfvCatalog.Text.Latest

/-! ## What was added -/

/-- The letters. -/
def letters : CharSet := .ofTable
  "88F C5C CDC A7CE-A7CF A7D2 A7D4 A7F1 10940-10959 10EC5-10EC7 11DB0-11DDB 16EA0-16EB8
    16EBB-16ED3 16FF2-16FF3 187F8-187FF 18D09-18D1E 18D80-18DF2 1E6C0-1E6DE 1E6E0-1E6E2
    1E6E4-1E6E5 1E6E7-1E6ED 1E6F0-1E6F4 1E6FE-1E6FF 2B73A-2B73F 2CEA2-2CEAD 323B0-33479"

/-- The marks that take no space and stand for no sound. -/
def plainMarks : CharSet := .ofTable "1ACF-1ADD 1AE0-1AEB"

/-- The marks that take no space and stand for a sound. -/
def vowelMarks : CharSet := .ofTable
  "10EFA-10EFB 11B60 11B62-11B64 11B66 1E6E3 1E6E6 1E6EE-1E6EF 1E6F5"

/-- The marks that take space. -/
def spacingMarks : CharSet := .ofTable "11B61 11B65 11B67"

/-- The digits. -/
def digits : CharSet := .ofTable "11DE0-11DE9"

/-- The letters that are numbers. -/
def letterNumbers : CharSet := .ofTable "16FF4-16FF6"

/-- The signs. -/
def signs : CharSet := .ofTable
  "20C1 2B96 FBC3-FBD2 FD90-FD91 FDC8-FDCE 10ED0-10ED8 1CCFA-1CCFC 1CEBA-1CED0 1CEE0-1CEF0
    1F6D8 1F777-1F77A 1F8D0-1F8D8 1FA54-1FA57 1FA8A 1FA8E 1FAC8 1FACD 1FAEA 1FAEF 1FBFA"

/-- All additions. -/
def added : CharSet :=
  .unions [letters, plainMarks, vowelMarks, spacingMarks, digits, letterNumbers, signs]

/-! ## The sets with them -/

/-- The property `Alphabetic`. -/
def alphabetic : CharSet :=
  .unions [Property.alphabetic, letters, vowelMarks, spacingMarks, letterNumbers]

/-- The numbers. -/
def number : CharSet := .unions [Category.number, digits, letterNumbers]

/-- The category `Nonspacing_Mark`. -/
def nonspacingMark : CharSet := .unions [Category.nonspacingMark, plainMarks, vowelMarks]

/-- The marks on letters. -/
def mark : CharSet := .unions [Category.mark, plainMarks, vowelMarks, spacingMarks]

/-- The property `Grapheme_Extend`. -/
def graphemeExtend : CharSet := .unions [Property.graphemeExtend, plainMarks, vowelMarks]

/-- The category `Unassigned`. -/
def unassigned : CharSet := Category.unassigned.diff added

/-- Codes that stand for no visible character. -/
def other : CharSet := Category.other.diff added

end NfvCatalog.Text.Latest
