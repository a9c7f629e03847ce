import NfvCatalog.Document.Value
import NfvCatalog.Number.Digits

/-! # Positions in YAML text

A cursor is the unread rest of a text with its place. Character classes are those of YAML 1.1, in
which five characters end a line; the end of the text counts as a line end.
-/

namespace NfvCatalog.Yaml

/-- A place in a text, and what follows it. -/
structure Cursor where
  rest : List Char
  line : Nat := 0
  column : Nat := 0
  index : Nat := 0
deriving Repr, Inhabited

/-- The characters that end a line. -/
def isBreak (c : Char) : Bool :=
  c = '\n' || c = '\r' || c.toNat = 0x85 || c.toNat = 0x2028 || c.toNat = 0x2029

/-- The characters that separate words of a line. -/
def isSeparator (c : Char) : Bool := c = ' ' || c = '\t'

/-- Letters, digits and the two joining marks of names. -/
def isNameChar (c : Char) : Bool := c.isAlphanum || c = '_' || c = '-'

/-- The end of a line or of the text. -/
def endsLine : Option Char → Bool
  | none => true
  | some c => isBreak c

/-- The end of a word: a separator, or the end of a line. -/
def endsWord : Option Char → Bool
  | none => true
  | some c => isSeparator c || isBreak c

/-- The characters that a YAML text may hold. -/
def isAllowed (c : Char) : Bool :=
  let code := c.toNat
  code == 9 || code == 10 || code == 13 || (0x20 ≤ code && code ≤ 0x7E) || code == 0x85 ||
    (0xA0 ≤ code && code ≤ 0xD7FF) || (0xE000 ≤ code && code ≤ 0xFFFD) || 0x10000 ≤ code

/-- The byte-order mark. -/
def isOrderMark (c : Char) : Bool := c.toNat = 0xFEFF

namespace Cursor

/-- The next character. -/
def peek (cursor : Cursor) : Option Char := cursor.rest.head?

/-- The character at an offset. -/
def peekAt (cursor : Cursor) (offset : Nat) : Option Char := cursor.rest[offset]?

/-- Whether the next character is the given one. -/
def sees (cursor : Cursor) (c : Char) : Bool := cursor.peek = some c

/-- Move over characters of one line. -/
def skip (cursor : Cursor) (count : Nat) : Cursor :=
  { cursor with
    rest := cursor.rest.drop count
    column := cursor.column + count
    index := cursor.index + count }

/-- Move over all characters of a class that holds no line end. -/
def skipWhile (cursor : Cursor) (class? : Char → Bool) : Cursor :=
  cursor.skip (cursor.rest.takeWhile class?).length

/-- Move to the end of the line. -/
def skipLine (cursor : Cursor) : Cursor := cursor.skipWhile fun c => !isBreak c

/-- Move over one line end; a carriage return and a line feed are one. -/
def skipBreak (cursor : Cursor) : Cursor :=
  let count := match cursor.rest with
    | '\r' :: '\n' :: _ => 2
    | _ => 1
  { rest := cursor.rest.drop count
    line := cursor.line + 1
    column := 0
    index := cursor.index + count }

/-- The line end as text: the separators of Unicode stay, all others are a line feed. -/
def breakText (cursor : Cursor) : List Char :=
  match cursor.peek with
  | some c => if c.toNat = 0x2028 ∨ c.toNat = 0x2029 then [c] else if isBreak c then ['\n'] else []
  | none => []

/-- Whether a document marker starts here: three equal characters at the start of a line. -/
def seesMarker (cursor : Cursor) (c : Char) : Bool :=
  cursor.column = 0 && cursor.rest.take 3 = [c, c, c] && endsWord (cursor.peekAt 3)

/-- Whether any document marker starts here. -/
def seesAnyMarker (cursor : Cursor) : Bool := cursor.seesMarker '-' || cursor.seesMarker '.'

/-- A fault at this place. -/
def fault (cursor : Cursor) (reason : String) : Fault :=
  .text reason (cursor.line + 1) (cursor.column + 1)

/-- Move over a byte-order mark at the start of a line. It takes a column like any character. -/
def skipOrderMark (cursor : Cursor) : Cursor :=
  if cursor.column = 0 && cursor.peek.any isOrderMark then cursor.skip 1 else cursor

/-- Move over blanks and a comment. -/
def skipRemark (cursor : Cursor) : Cursor :=
  let cursor := cursor.skipWhile isSeparator
  if cursor.sees '#' then cursor.skipLine else cursor

end Cursor

end NfvCatalog.Yaml
