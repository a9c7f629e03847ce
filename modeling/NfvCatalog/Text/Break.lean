import NfvCatalog.Text.Property
import NfvCatalog.Text.Script

/-! # Where text is divided

Three properties tell where text may be divided into visible units, into words and into sentences.
Each gives a character at most one value, and each value is named here with the set of its
characters. Most sets follow from the category of a character and from what else is known of it.
-/

namespace NfvCatalog.Text.Break

/-! ## Shared sets -/

/-- Signs that extend the character before them in every division. -/
def extending : CharSet := .unions [Property.graphemeExtend, Property.emojiModifier]

/-- Signs that extend the character before them in words and sentences. -/
def attached : CharSet := extending.union Category.spacingMark

/-- The joiner, which extends what is before it and also binds what follows. -/
def joiner : CharSet := .ofTable "200D"

/-- The syllables of Hangul that end in a vowel: every twenty-eighth one. -/
def openSyllables : CharSet := .ofCodes ((List.range 399).map fun n => 0xAC00 + 28 * n)

/-- The sign of an abbreviation, which is put in front of letters. -/
def abbreviationMark : CharSet := .ofTable "70F"

/-- Signs that are put in front of digits. -/
def numberMark : CharSet := Property.prependedConcatenationMark.diff abbreviationMark

/-- Characters of numbers where lines are divided. -/
def numeric : CharSet := .unions [Category.decimalNumber, numberMark, .ofTable "66B-66C 19DA"]

/-- Quotation marks where lines are divided. -/
def quotation : CharSet :=
  .unions [Category.initialPunctuation, Category.finalPunctuation, .ofTable
    "22 27 275B-2760 2E00-2E01 2E06-2E08 2E0B 1F676-1F678"]

/-- Letters of scripts that put no blanks between words. -/
def unspaced : CharSet := .ofTable
  "E01-E3A E40-E4E E81-E82 E84 E86-E8A E8C-EA3 EA5 EA7-EBD EC0-EC4 EC6 EC8-ECE EDC-EDF
    1000-103F 1050-108F 109A-109F 1780-17D3 17D7 17DC-17DD 1950-196D 1970-1974 1980-19AB
    19B0-19C9 19DA 19DE-19DF 1A20-1A5E 1A60-1A7C 1AA0-1AAD A9E0-A9EF A9FA-A9FE AA60-AAC2
    AADB-AADF 11700-1171A 1171D-1172B 1173A-1173B 1173F-11746"

/-- The characters of a script. -/
def script (name : String) : CharSet :=
  .unions ((Script.list.filter (·.names.contains name)).map Script.members)

/-- Controls of format that take no part in a division by themselves. -/
def format : CharSet :=
  Category.format.diff (.unions [attached, joiner, Property.prependedConcatenationMark])

/-! ## Visible units -/

/-- Characters that form one unit with what follows. -/
def prepended : CharSet :=
  .unions [Property.prependedConcatenationMark, .ofTable
    "D4E 111C2-111C3 113D1 1193F 11941 11A3A 11A84-11A89 11D46 11F02"]

/-- Controls, which are units of their own. -/
def control : CharSet :=
  (CharSet.unions [Category.control, Category.format, Category.lineSeparator,
    Category.paragraphSeparator,
    Category.unassigned.inter Property.defaultIgnorableCodePoint]).diff
    (.unions [extending, joiner, Property.prependedConcatenationMark, .ofTable "A D"])

/-- Marks with a width that form one unit with what is before them. -/
def spacing : CharSet :=
  (Category.spacingMark.union (.ofTable "E33 EB3")).diff (extending.union (.ofTable
    "102B-102C 1038 1062-1064 1067-106D 1083 1087-108C 108F 109A-109C 1A61 1A63-1A64 AA7B AA7D
      11720-11721"))

/-- The values of the property `Grapheme_Cluster_Break`, by name. -/
def units : List (List String × CharSet) := [
  (["CN", "Control"], control),
  (["CR"], .ofTable "D"),
  (["EX", "Extend"], extending),
  (["L"], .ofTable "1100-115F A960-A97C"),
  (["LF"], .ofTable "A"),
  (["LV"], openSyllables),
  (["LVT"], (CharSet.range 0xAC00 0xD7A3).diff openSyllables),
  (["PP", "Prepend"], prepended),
  (["RI", "Regional_Indicator"], Property.regionalIndicator),
  (["SM", "SpacingMark"], spacing),
  (["T"], .ofTable "11A8-11FF D7CB-D7FB"),
  (["V"], .ofTable "1160-11A7 D7B0-D7C6 16D63 16D67-16D6A"),
  (["ZWJ"], joiner)]

/-! ## Words -/

/-- The characters of Katakana and those used with it. -/
def katakana : CharSet :=
  (script "Katakana").union (.ofTable "3031-3035 309B-309C 30A0 30FC FF70")

/-- The letters of Hebrew. -/
def hebrew : CharSet := (script "Hebrew").inter Category.otherLetter

/-- Letters of scripts whose words are kept together letter by letter. -/
def wordLetter : CharSet :=
  (CharSet.unions [Property.alphabetic, abbreviationMark, .ofTable
    "2C2-2C5 2D2-2D7 2DE-2DF 2E5-2EB 2ED 2EF-2FF 55A-55C 55E 58A 5F3 A708-A716 A720-A721 A789-A78A
      AB5B"]).diff
    (.unions [Property.ideographic, katakana, script "Hiragana", attached, hebrew, unspaced])

/-- The values of the property `Word_Break`, by name. -/
def words : List (List String × CharSet) := [
  (["LE", "ALetter"], wordLetter),
  (["CR"], .ofTable "D"),
  (["DQ", "Double_Quote"], .ofTable "22"),
  (["Extend"], attached),
  (["EX", "ExtendNumLet"], Category.connectorPunctuation.union (.ofTable "202F")),
  (["FO", "Format"], format.diff (.ofTable "200B")),
  (["HL", "Hebrew_Letter"], hebrew),
  (["KA", "Katakana"], katakana),
  (["LF"], .ofTable "A"),
  (["ML", "MidLetter"], .ofTable "3A B7 387 55F 5F4 2027 FE13 FE55 FF1A"),
  (["MN", "MidNum"], .ofTable
    "2C 3B 37E 589 60C-60D 66C 7F8 2044 FE50 FE54 FF0C FF1B"),
  (["MB", "MidNumLet"], .ofTable "2E 2018-2019 2024 FE52 FF07 FF0E"),
  (["NL", "Newline"], .ofTable "B-C 85 2028-2029"),
  (["NU", "Numeric"], numeric.diff (.ofTable "66C")),
  (["RI", "Regional_Indicator"], Property.regionalIndicator),
  (["SQ", "Single_Quote"], .ofTable "27"),
  (["WSegSpace"], Category.spaceSeparator.diff (.ofTable "A0 2007 202F")),
  (["ZWJ"], joiner)]

/-! ## Sentences -/

/-- Ends of paragraphs other than the two of ASCII. -/
def separator : CharSet := .ofTable "85 2028-2029"

/-- Blanks inside a paragraph. -/
def blank : CharSet := Property.whiteSpace.diff (separator.union (.ofTable "A D"))

/-- Full stops, which may also stand in an abbreviation. -/
def fullStop : CharSet := .ofTable "2E 2024 FE52 FF0E"

/-- Other signs that end a sentence. -/
def terminal : CharSet := Property.sentenceTerminal.diff fullStop

/-- Small letters, which go on with a sentence. -/
def lower : CharSet :=
  Property.lowercase.diff (Property.graphemeExtend.union (.ofTable "10D0-10FA 10FD-10FF"))

/-- Capital letters, which may start a sentence. -/
def upper : CharSet :=
  (Property.uppercase.union Category.titlecaseLetter).diff (.ofTable "1C90-1CBA 1CBD-1CBF")

/-- Signs that extend what is before them in sentences. -/
def trailing : CharSet := .unions [Property.graphemeExtend, Category.spacingMark, joiner]

/-- The values of the property `Sentence_Break`, by name. -/
def sentences : List (List String × CharSet) := [
  (["AT", "ATerm"], fullStop),
  (["CL", "Close"],
    (CharSet.unions [Category.openPunctuation, Category.closePunctuation, quotation]).diff
      (fullStop.union terminal)),
  (["CR"], .ofTable "D"),
  (["EX", "Extend"], trailing),
  (["FO", "Format"], format.union abbreviationMark),
  (["LF"], .ofTable "A"),
  (["LO", "Lower"], lower),
  (["NU", "Numeric"], numeric),
  (["LE", "OLetter"], (Property.alphabetic.union (.ofTable "5F3")).diff
    (.unions [lower, upper, trailing])),
  (["SC", "SContinue"], .ofTable
    "2C-2D 3A-3B 37E 55D 60C-60D 7F8 1802 1808 2013-2014 3001 FE10-FE11 FE13-FE14 FE31-FE32
      FE50-FE51 FE54-FE55 FE58 FE63 FF0C-FF0D FF1A-FF1B FF64"),
  (["SE", "Sep"], separator),
  (["SP", "Sp"], blank),
  (["ST", "STerm"], terminal),
  (["UP", "Upper"], upper)]

end NfvCatalog.Text.Break
