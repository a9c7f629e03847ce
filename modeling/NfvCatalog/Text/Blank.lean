/-! # White space and line cutting

Blanks are the characters with the Unicode property `White_Space`. Everything here is defined on
lists of characters and lifted to strings, so that statements about text become statements about
lists.
-/

namespace NfvCatalog.Text

/-- The characters with the Unicode property `White_Space`. -/
def isBlank (c : Char) : Bool :=
  let code := c.toNat
  (9 ≤ code && code ≤ 13) || code == 0x20 || code == 0x85 || code == 0xA0 || code == 0x1680 ||
    (0x2000 ≤ code && code ≤ 0x200A) || code == 0x2028 || code == 0x2029 || code == 0x202F ||
    code == 0x205F || code == 0x3000

/-- Every blank of the ASCII range in the standard sense is a blank here. -/
theorem isBlank_of_isWhitespace (c : Char) (white : c.isWhitespace) : isBlank c := by
  simp only [Char.isWhitespace, Bool.or_eq_true, decide_eq_true_eq] at white
  rcases white with ((h | h) | h) | h <;> subst h <;> decide

/-- Drop blanks at the start. -/
def dropBlanks (cs : List Char) : List Char := cs.dropWhile isBlank

/-- Drop blanks at the end. -/
def dropTrailingBlanks (cs : List Char) : List Char := (cs.reverse.dropWhile isBlank).reverse

/-- Drop blanks at both ends. -/
def trimChars (cs : List Char) : List Char := dropTrailingBlanks (dropBlanks cs)

/-- The text without blanks at its start. -/
def trimStart (text : String) : String := String.ofList (dropBlanks text.toList)

/-- The text without blanks at its end. -/
def trimEnd (text : String) : String := String.ofList (dropTrailingBlanks text.toList)

/-- The text without blanks at either end. -/
def trim (text : String) : String := String.ofList (trimChars text.toList)

/-- Cut a list at every occurrence of a separator; there is always one more piece than
separators. -/
def splitChars (separator : Char) : List Char → List (List Char)
  | [] => [[]]
  | c :: rest =>
    match splitChars separator rest with
    | [] => [[c]]
    | piece :: pieces => if c = separator then [] :: piece :: pieces else (c :: piece) :: pieces

/-- Cut a text at every occurrence of a separator. -/
def split (separator : Char) (text : String) : List String :=
  (splitChars separator text.toList).map String.ofList

/-- The line without one carriage return at its end. -/
def dropReturn (line : List Char) : List Char :=
  if line.getLast? = some '\r' then line.dropLast else line

/-- The lines of a list of characters: a line ends in a line feed, or at the end of the text if it
is not empty there. A carriage return before the line feed belongs to the line end. -/
def linesOf (cs : List Char) : List (List Char) :=
  let pieces := splitChars '\n' cs
  match pieces.getLast? with
  | some [] => pieces.dropLast.map dropReturn
  | some last => pieces.dropLast.map dropReturn ++ [last]
  | none => []

/-- The lines of a text. -/
def lines (text : String) : List String := (linesOf text.toList).map String.ofList

/-- Whether a text starts with another. -/
def startsWith (text start : String) : Bool := start.toList.isPrefixOf text.toList

/-- Whether a text ends with another. -/
def endsWith (text tail : String) : Bool := tail.toList.isSuffixOf text.toList

/-- Whether a list occurs inside another. -/
def occurs (needle : List Char) : List Char → Bool
  | [] => needle.isEmpty
  | c :: rest => needle.isPrefixOf (c :: rest) || occurs needle rest

/-- Whether a text occurs inside another. -/
def contains (text needle : String) : Bool := occurs needle.toList text.toList

/-- Lower case of the ASCII letters; all other characters stay. -/
def asciiLower (text : String) : String := String.ofList (text.toList.map Char.toLower)

/-- Upper case of the ASCII letters; all other characters stay. -/
def asciiUpper (text : String) : String := String.ofList (text.toList.map Char.toUpper)

/-- The pieces joined with a separator between neighbours. -/
def join (separator : String) (pieces : List String) : String :=
  String.intercalate separator pieces

/-- Order of texts by their characters' code points. -/
def le (left right : String) : Bool := decide (left ≤ right)

end NfvCatalog.Text
