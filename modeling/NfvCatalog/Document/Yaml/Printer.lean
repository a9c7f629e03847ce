import NfvCatalog.Document.Scalar
import NfvCatalog.Document.Yaml.Cursor
import NfvCatalog.Text.Utf8

/-! # YAML text of values

Collections are written as blocks, two columns deeper per level; the items of a sequence stand at
the column of the mapping around it. A text is written plainly where it reads back as itself, in
single quotes where it would read as something else, as a literal block where it has several lines,
and in double quotes where it holds characters that need an escape.
-/

namespace NfvCatalog.Yaml

/-! ## What a text allows -/

/-- The characters that may stand unescaped. -/
def isPrintable (c : Char) : Bool :=
  let code := c.toNat
  code == 0x0A || (0x20 ≤ code && code ≤ 0x7E) || (0xA0 ≤ code && code ≤ 0xD7FF) ||
    (0xE000 ≤ code && code ≤ 0xFFFD && code != 0xFEFF) || 0x10000 ≤ code

/-- The ways of writing a text that are open to it, and whether it has several lines. -/
structure Writable where
  multiline : Bool
  plain : Bool
  single : Bool
  block : Bool
deriving DecidableEq, Repr

/-- Whether the character at a place would be taken for an indicator: at the start of a text, or
behind or before white space. -/
def actsAsIndicator (first afterBlank beforeBlank : Bool) (c : Char) : Bool :=
  if first then
    "#,[]\x7b\x7d&*!|>'\"%@`".toList.contains c || ("?:-".toList.contains c && beforeBlank)
  else (c = ':' && beforeBlank) || (c = '#' && afterBlank)

/-- Whether any character of a text would be taken for an indicator. -/
def hasIndicator : Bool → Bool → List Char → Bool
  | _, _, [] => false
  | first, afterBlank, c :: rest =>
    actsAsIndicator first afterBlank (endsWord rest.head?) c ||
      hasIndicator false (isSeparator c || isBreak c) rest

/-- Whether a character of one class stands directly before one of another. -/
def hasPair (left right : Char → Bool) : List Char → Bool
  | c :: d :: rest => (left c && right d) || hasPair left right (d :: rest)
  | _ => false

/-- The ways of writing a text that are open to it. -/
def Writable.ofText (text : List Char) : Writable :=
  let isSpace := fun c : Char => c = ' '
  let edge (class? : Char → Bool) : Bool := text.head?.any class? || text.getLast?.any class?
  let special := text.any fun c => !isPrintable c
  let spaceBreak := hasPair isSpace isBreak text
  let breakSpace := hasPair isBreak isSpace text
  let lines := text.any isBreak
  let marker := text.take 3 = ['-', '-', '-'] || text.take 3 = ['.', '.', '.']
  let broken := special || spaceBreak
  if text.isEmpty then ⟨false, true, true, false⟩
  else
    { multiline := lines
      plain := !(broken || breakSpace || lines || marker || edge isSpace || edge isBreak ||
        hasIndicator true true text)
      single := !(broken || breakSpace)
      block := !(broken || text.getLast?.any isSpace) }

/-! ## Scalars -/

/-- The four ways of writing a text. -/
inductive Style where
  | plain
  | single
  | double
  | literal
deriving DecidableEq, Repr

/-- Whether an unquoted text would read back as itself. Digits with leading zeros would not, for
readers of older rules. -/
def readsAsText (text : String) : Bool :=
  !Scalar.isZeroPadded text.toList &&
    match Scalar.resolve text with
    | .ok (.string _) => true
    | _ => false

/-- The way a text is written. A key that has to stand on one line has no block form. -/
def styleOf (oneLine : Bool) (text : String) : Style :=
  let ways := Writable.ofText text.toList
  let wanted : Style :=
    if text.toList.contains '\n' then .literal
    else if readsAsText text then .plain
    else .single
  let quoted : Style := if ways.single then .single else .double
  if oneLine && ways.multiline then .double
  else match wanted with
    | .plain => if ways.plain then .plain else quoted
    | .single => quoted
    | .literal => if ways.block && !oneLine then .literal else .double
    | .double => .double

/-- Spaces up to a column. -/
def spaces (column : Nat) : String := String.ofList (List.replicate column ' ')

/-- The inside of a text in single quotes: a quote is doubled, and a line of a text with line
separators starts at the given column, as does the closing quote if it has a line to itself. -/
def singleQuoted (column : Nat) : Bool → List Char → List Char
  | afterBreak, [] => if afterBreak then List.replicate column ' ' else []
  | afterBreak, c :: rest =>
    let lead := if afterBreak && !isBreak c then List.replicate column ' ' else []
    let shown := if c = '\'' then ['\'', '\''] else [c]
    lead ++ shown ++ singleQuoted column (isBreak c) rest

/-- The escape of a character in double quotes. -/
def escape (c : Char) : String :=
  let code := c.toNat
  let upper (width : Nat) : String := Text.asciiUpper (Digits.hexPadded width code)
  if code = 0 then "\\0"
  else if code = 7 then "\\a"
  else if code = 8 then "\\b"
  else if code = 9 then "\\t"
  else if code = 10 then "\\n"
  else if code = 11 then "\\v"
  else if code = 12 then "\\f"
  else if code = 13 then "\\r"
  else if code = 0x1B then "\\e"
  else if code = 0x22 then "\\\""
  else if code = 0x5C then "\\\\"
  else if code = 0x85 then "\\N"
  else if code = 0xA0 then "\\_"
  else if code = 0x2028 then "\\L"
  else if code = 0x2029 then "\\P"
  else if code ≤ 0xFF then "\\x" ++ upper 2
  else if code ≤ 0xFFFF then "\\u" ++ upper 4
  else "\\U" ++ upper 8

/-- A character inside double quotes. -/
def doubleQuoted (c : Char) : String :=
  if isPrintable c && !isBreak c && c != '"' && c != '\\' then String.singleton c else escape c

/-- The indicators of a literal block: an indentation digit when its first line starts blank, and
what becomes of its last line ends. -/
def literalHints (text : List Char) : String :=
  let indentation := if text.head?.any fun c => c = ' ' || isBreak c then "2" else ""
  let chomping := match text.reverse with
    | [] => "-"
    | [c] => if isBreak c then "+" else "-"
    | c :: d :: _ => if isBreak c then (if isBreak d then "+" else "") else "-"
  indentation ++ chomping

/-- The lines of a literal block at a column, up to the end of the last line. -/
def literalLines (column : Nat) : Bool → List Char → List Char
  | afterBreak, [] => if afterBreak then [] else ['\n']
  | afterBreak, c :: rest =>
    let lead := if afterBreak && !isBreak c then List.replicate column ' ' else []
    lead ++ c :: literalLines column (isBreak c) rest

/-- A text on one line. -/
def inlineText (style : Style) (column : Nat) (text : String) : String :=
  match style with
  | .plain | .literal => text
  | .single => "'" ++ String.ofList (singleQuoted column false text.toList) ++ "'"
  | .double => "\"" ++ String.join (text.toList.map doubleQuoted) ++ "\""

/-- A text with the end of its last line; the lines of a block stand at the given column. -/
def textLines (column : Nat) (text : String) : String :=
  match styleOf false text with
  | .literal =>
    "|" ++ literalHints text.toList ++ "\n" ++ String.ofList (literalLines column true text.toList)
  | style => inlineText style column text ++ "\n"

/-! ## Tags -/

/-- The characters of a tag that stand for themselves. -/
def isPlainInTag (c : Char) : Bool :=
  isNameChar c || ";/?:@&=+$,.~*'()[]".toList.contains c

/-- A character in a tag: itself, or its bytes after percent signs. -/
def tagChar (c : Char) : String :=
  if isPlainInTag c then String.singleton c
  else String.join ((Utf8.encode (String.singleton c)).map fun byte =>
    "%" ++ Text.asciiUpper (Digits.hexPadded 2 byte.toNat))

/-- The tag with a name. The exclamation mark alone needs the form with angle brackets. -/
def tagText (name : String) : String :=
  let chars := match name.toList with
    | '!' :: rest => rest
    | cs => cs
  if chars.isEmpty then "!<%21>" else "!" ++ String.join (chars.map tagChar)

/-- The length of a tag in bytes. -/
def tagLength (name : String) : Nat :=
  if name.toList.head? = some '!' then name.utf8ByteSize else name.utf8ByteSize + 1

/-! ## Keys -/

/-- The longest key in bytes that stands on the line of its value. -/
def keyLimit : Nat := 128

/-- The text of a key that stands on the line of its value, of which some bytes are already used. -/
def inlineKeyAfter? (column used : Nat) (key : Value) : Option String :=
  let fits (text : String) : Bool := used + text.utf8ByteSize ≤ keyLimit
  let word (text : String) : Option String := if fits text then some text else none
  match key with
  | .null => word "null"
  | .bool b => word (toString b)
  | .number n => word n.yamlText
  | .string s =>
    if (Writable.ofText s.toList).multiline || !fits s then none
    else some (inlineText (styleOf true s) column s)
  | .sequence [] => some "[]"
  | .mapping [] => some "\x7b\x7d"
  | _ => none

/-- The text of a key that stands on the line of its value. -/
def inlineKey? (column : Nat) : Value → Option String
  | .tagged tag value =>
    if keyLimit < tagLength tag then none
    else (inlineKeyAfter? column (tagLength tag) value).map (tagText tag ++ " " ++ ·)
  | value => inlineKeyAfter? column 0 value

/-! ## Collections

Each function gives whole lines: what it returns ends in a line end.
-/

mutual

/-- What follows a key's colon in a mapping at a column. -/
def afterColon (column : Nat) : Value → String
  | .null => " null\n"
  | .bool b => " " ++ toString b ++ "\n"
  | .number n => " " ++ n.yamlText ++ "\n"
  | .string s => " " ++ textLines (column + 2) s
  | .sequence [] => " []\n"
  | .sequence (item :: rest) => "\n" ++ spaces column ++ items column (item :: rest)
  | .mapping [] => " \x7b\x7d\n"
  | .mapping (entry :: rest) => "\n" ++ spaces (column + 2) ++ entries (column + 2) (entry :: rest)
  | .tagged tag value => " " ++ tagText tag ++ afterColon column value

/-- What follows an item's dash at a column. -/
def afterDash (column : Nat) : Value → String
  | .null => "null\n"
  | .bool b => toString b ++ "\n"
  | .number n => n.yamlText ++ "\n"
  | .string s => textLines (column + 2) s
  | .sequence [] => "[]\n"
  | .sequence (item :: rest) => items (column + 2) (item :: rest)
  | .mapping [] => "\x7b\x7d\n"
  | .mapping (entry :: rest) => entries (column + 2) (entry :: rest)
  | .tagged tag value => tagText tag ++ afterTag (column + 2) value

/-- What follows a tag when the content's own lines stand at a column. -/
def afterTag (column : Nat) : Value → String
  | .null => " null\n"
  | .bool b => " " ++ toString b ++ "\n"
  | .number n => " " ++ n.yamlText ++ "\n"
  | .string s => " " ++ textLines column s
  | .sequence [] => " []\n"
  | .sequence (item :: rest) => "\n" ++ spaces column ++ items column (item :: rest)
  | .mapping [] => " \x7b\x7d\n"
  | .mapping (entry :: rest) => "\n" ++ spaces column ++ entries column (entry :: rest)
  | .tagged tag value => " " ++ tagText tag ++ afterTag column value

/-- The items of a sequence at a column; the first stands where the text already is. -/
def items (column : Nat) : List Value → String
  | [] => ""
  | item :: rest => "- " ++ afterDash column item ++ moreItems column rest

/-- The items after the first. -/
def moreItems (column : Nat) : List Value → String
  | [] => ""
  | item :: rest => spaces column ++ "- " ++ afterDash column item ++ moreItems column rest

/-- One entry of a mapping at a column. -/
def entry (column : Nat) : Value × Value → String
  | (key, value) =>
    match inlineKey? column key with
    | some text => text ++ ":" ++ afterColon column value
    | none => "? " ++ afterDash column key ++ spaces column ++ ": " ++ afterDash column value

/-- The entries of a mapping at a column; the first stands where the text already is. -/
def entries (column : Nat) : List (Value × Value) → String
  | [] => ""
  | first :: rest => entry column first ++ moreEntries column rest

/-- The entries after the first. -/
def moreEntries (column : Nat) : List (Value × Value) → String
  | [] => ""
  | next :: rest => spaces column ++ entry column next ++ moreEntries column rest

end

/-- The YAML text of a value. -/
def print : Value → String
  | .null => "null\n"
  | .bool b => toString b ++ "\n"
  | .number n => n.yamlText ++ "\n"
  | .string s => textLines 2 s
  | .sequence [] => "[]\n"
  | .sequence (item :: rest) => items 0 (item :: rest)
  | .mapping [] => "\x7b\x7d\n"
  | .mapping (entry :: rest) => entries 0 (entry :: rest)
  | .tagged tag value => tagText tag ++ afterTag 0 value

/-! ## What has a text -/

/-- Whether a mapping of one entry cannot start with a key: a tagged one, or one that is a mapping
of one entry itself. -/
def hidesStart : Value → Bool
  | .tagged .. => true
  | .mapping [_] => true
  | _ => false

mutual

/-- Whether a value has a YAML text, below a tag or not. -/
def hasText (tagged : Bool) : Value → Bool
  | .sequence items => allHaveText items
  | .mapping [(key, value)] =>
    (tagged || !hidesStart key) && hasText false key && hasText false value
  | .mapping entries => entriesHaveText entries
  | .tagged _ value => !tagged && hasText true value
  | _ => true

/-- Whether all items of a sequence have a YAML text. -/
def allHaveText : List Value → Bool
  | [] => true
  | item :: rest => hasText false item && allHaveText rest

/-- Whether all entries of a mapping have a YAML text. -/
def entriesHaveText : List (Value × Value) → Bool
  | [] => true
  | (key, value) :: rest => hasText false key && hasText false value && entriesHaveText rest

end

/-- The YAML text of a value that has one. -/
def write (value : Value) : Except Fault String :=
  if hasText false value then .ok (print value)
  else .error (.other "this key cannot start a mapping of one entry")

end NfvCatalog.Yaml
