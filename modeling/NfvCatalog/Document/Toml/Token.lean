import NfvCatalog.Document.Node

/-! # Words of TOML

Keys, strings, numbers and dates. A reader takes the rest of the text and gives what it read with
the text after it.
-/

namespace NfvCatalog.Toml

/-- A fault of TOML text. -/
def fault (reason : String) : Fault := .other reason

/-! ## Blank space -/

/-- A character between words of a line. -/
def isSpace (c : Char) : Bool := c = ' ' || c = '\t'

/-- The text after the blanks of a line. -/
def skipSpace (cs : List Char) : List Char := cs.dropWhile isSpace

/-- A character of a comment. -/
def isCommentChar (c : Char) : Bool := c = '\t' || (0x20 ≤ c.toNat && c.toNat ≠ 0x7F)

/-- The text after a comment, if there is one. -/
def skipComment : List Char → List Char
  | '#' :: rest => rest.dropWhile isCommentChar
  | cs => cs

/-- The text after a line break. -/
def lineBreak? : List Char → Option (List Char)
  | '\n' :: rest => some rest
  | '\r' :: '\n' :: rest => some rest
  | _ => none

/-- The text after the blanks and the comment that may end a line, and after its line break. -/
def lineEnd (cs : List Char) : Except Fault (List Char) :=
  match skipComment (skipSpace cs) with
  | [] => .ok []
  | rest =>
    match lineBreak? rest with
    | some rest => .ok rest
    | none => .error (fault "expected the end of the line")

/-- The text after blanks, comments and line breaks; `fuel` bounds their number. -/
def skipLines : Nat → List Char → List Char
  | 0, cs => cs
  | fuel + 1, cs =>
    let rest := skipComment (skipSpace cs)
    match lineBreak? rest with
    | some rest => skipLines fuel rest
    | none => rest

/-! ## Strings -/

/-- A character that a string may hold as it is, its delimiter and escapes aside. -/
def isStringChar (c : Char) : Bool := c = '\t' || (0x20 ≤ c.toNat && c.toNat ≠ 0x7F)

/-- The character that a one-letter escape stands for. -/
def letterEscape? : Char → Option Char
  | 'b' => some (Char.ofNat 8)
  | 't' => some '\t'
  | 'n' => some '\n'
  | 'f' => some (Char.ofNat 12)
  | 'r' => some '\r'
  | '"' => some '"'
  | '\\' => some '\\'
  | _ => none

/-- The character with a code point given by a count of hexadecimal digits. -/
def codePoint (count : Nat) (cs : List Char) : Except Fault (Char × List Char) :=
  let digits := cs.take count
  match Digits.nat? 16 digits with
  | some code =>
    if digits.length = count ∧ code.isValidChar then .ok (Char.ofNat code, cs.drop count)
    else .error (fault "invalid code point")
  | none => .error (fault "invalid code point")

/-- The character of an escape, after its backslash. -/
def escape : List Char → Except Fault (Char × List Char)
  | 'u' :: rest => codePoint 4 rest
  | 'U' :: rest => codePoint 8 rest
  | c :: rest =>
    match letterEscape? c with
    | some c => .ok (c, rest)
    | none => .error (fault "invalid escape sequence")
  | [] => .error (fault "invalid escape sequence")

/-- The rest of a basic string; `fuel` bounds the characters read. -/
def basicBody : Nat → List Char → List Char → Except Fault (String × List Char)
  | 0, _, _ => .error (fault "unterminated string")
  | fuel + 1, done, cs =>
    match cs with
    | '"' :: rest => .ok (String.ofList done.reverse, rest)
    | '\\' :: rest => do
      let (c, rest) ← escape rest
      basicBody fuel (c :: done) rest
    | c :: rest =>
      if isStringChar c then basicBody fuel (c :: done) rest
      else .error (fault "invalid basic string")
    | [] => .error (fault "unterminated string")

/-- The rest of a literal string. -/
def literalBody (cs : List Char) : Except Fault (String × List Char) :=
  let body := cs.takeWhile fun c => c ≠ '\'' && isStringChar c
  match cs.drop body.length with
  | '\'' :: rest => .ok (String.ofList body, rest)
  | _ => .error (fault "invalid literal string")

/-- The end of a string of several lines: at least three delimiters, of which at most two before
the last three belong to the text. -/
def longEnd (delimiter : Char) (done cs : List Char) : Option (String × List Char) :=
  let count := min 5 (cs.takeWhile (· = delimiter)).length
  if count < 3 then none
  else some (String.ofList (done.reverse ++ List.replicate (count - 3) delimiter), cs.drop count)

/-- The text after the line break that a backslash at the end of a line hides. -/
def hiddenBreak? (fuel : Nat) (cs : List Char) : Option (List Char) :=
  let blank (c : Char) : Bool := isSpace c || c = '\n'
  let rec drop : Nat → List Char → List Char
    | 0, cs => cs
    | fuel + 1, cs =>
      match cs with
      | '\r' :: '\n' :: rest => drop fuel rest
      | c :: rest => if blank c then drop fuel rest else c :: rest
      | [] => []
  (lineBreak? (skipSpace cs)).map (drop fuel)

/-- The rest of a basic string of several lines. -/
def longBasicBody : Nat → List Char → List Char → Except Fault (String × List Char)
  | 0, _, _ => .error (fault "unterminated string")
  | fuel + 1, done, cs =>
    match longEnd '"' done cs, lineBreak? cs, cs with
    | some result, _, _ => .ok result
    | none, some rest, _ => longBasicBody fuel ('\n' :: done) rest
    | none, none, '\\' :: rest =>
      match hiddenBreak? fuel rest with
      | some rest => longBasicBody fuel done rest
      | none => do
        let (c, rest) ← escape rest
        longBasicBody fuel (c :: done) rest
    | none, none, c :: rest =>
      if isStringChar c then longBasicBody fuel (c :: done) rest
      else .error (fault "invalid string of several lines")
    | none, none, [] => .error (fault "unterminated string")

/-- The rest of a literal string of several lines. -/
def longLiteralBody : Nat → List Char → List Char → Except Fault (String × List Char)
  | 0, _, _ => .error (fault "unterminated string")
  | fuel + 1, done, cs =>
    match longEnd '\'' done cs, lineBreak? cs, cs with
    | some result, _, _ => .ok result
    | none, some rest, _ => longLiteralBody fuel ('\n' :: done) rest
    | none, none, c :: rest =>
      if isStringChar c then longLiteralBody fuel (c :: done) rest
      else .error (fault "invalid string of several lines")
    | none, none, [] => .error (fault "unterminated string")

/-- A string of any kind. A line break right after the opening of a long string does not count. -/
def string? (cs : List Char) : Option (Except Fault (String × List Char)) :=
  let opened (rest : List Char) : List Char := (lineBreak? rest).getD rest
  match cs with
  | '"' :: '"' :: '"' :: rest => some (longBasicBody (cs.length + 1) [] (opened rest))
  | '"' :: rest => some (basicBody (cs.length + 1) [] rest)
  | '\'' :: '\'' :: '\'' :: rest => some (longLiteralBody (cs.length + 1) [] (opened rest))
  | '\'' :: rest => some (literalBody rest)
  | _ => none

/-! ## Keys -/

/-- A character of a bare key. -/
def isKeyChar (c : Char) : Bool := c.isAlphanum || c = '_' || c = '-'

/-- A key without dots. -/
def simpleKey (cs : List Char) : Except Fault (String × List Char) :=
  match cs with
  | '"' :: rest => basicBody (cs.length + 1) [] rest
  | '\'' :: rest => literalBody rest
  | _ =>
    let word := cs.takeWhile isKeyChar
    if word.isEmpty then .error (fault "expected a key")
    else .ok (String.ofList word, cs.drop word.length)

/-- The most keys that dots may join, and the deepest nesting of values. -/
def depthLimit : Nat := 79

/-- Keys joined by dots, with the blanks around them; `fuel` bounds their number. -/
def dottedKey : Nat → List Char → Except Fault (List String × List Char)
  | 0, _ => .error (fault "recursion limit exceeded")
  | fuel + 1, cs => do
    let (first, rest) ← simpleKey (skipSpace cs)
    match skipSpace rest with
    | '.' :: rest => do
      let (others, rest) ← dottedKey fuel rest
      return (first :: others, rest)
    | rest => return ([first], rest)

/-! ## Numbers, dates and truth values -/

/-- Digits in which single underscores may stand between digits. -/
def isGrouped (isDigit : Char → Bool) : List Char → Bool
  | [] => false
  | [c] => isDigit c
  | c :: '_' :: rest => isDigit c && isGrouped isDigit rest
  | c :: rest => isDigit c && isGrouped isDigit rest

/-- The digits without underscores. -/
def ungrouped (cs : List Char) : List Char := cs.filter (· ≠ '_')

/-- Whether a list is a decimal whole number without leading zeros. -/
def isDecimal (cs : List Char) : Bool :=
  match cs with
  | ['0'] => true
  | '0' :: _ => false
  | _ => isGrouped Char.isDigit cs

/-- The list without its sign. -/
def unsignedPart : List Char → List Char
  | '+' :: rest | '-' :: rest => rest
  | cs => cs

/-- The whole number that a word spells, of any size. -/
def whole? (word : List Char) : Option Int :=
  let inRadix (radix : Nat) (rest : List Char) : Option Int :=
    let isDigit (c : Char) : Bool := (Digits.digit? c).any (· < radix)
    if isGrouped isDigit rest then (Digits.nat? radix (ungrouped rest)).map Int.ofNat else none
  match word with
  | '0' :: 'x' :: rest => inRadix 16 rest
  | '0' :: 'o' :: rest => inRadix 8 rest
  | '0' :: 'b' :: rest => inRadix 2 rest
  | _ => if isDecimal (unsignedPart word) then Digits.signed? 10 (ungrouped word) else none

/-- The floating-point number that a word spells. -/
def float? (word : List Char) : Option Binary64 :=
  let body := unsignedPart word
  let negative := word.head? = some '-'
  if body = "inf".toList then some (.infinite negative)
  else if body = "nan".toList then some .nan
  else
    let mantissa := body.takeWhile fun c => c ≠ 'e' && c ≠ 'E'
    let power := body.drop mantissa.length
    let start := mantissa.takeWhile (· ≠ '.')
    let places := mantissa.drop start.length
    let good := isDecimal start && (places.isEmpty || isGrouped Char.isDigit places.tail) &&
      (power.isEmpty || isGrouped Char.isDigit (unsignedPart power.tail)) &&
      (!places.isEmpty || !power.isEmpty)
    if good then Binary64.ofText? (String.ofList (ungrouped word)) else none

/-- A number of two digits within bounds. -/
def isTwoDigits (low high : Nat) (cs : List Char) : Bool :=
  cs.length = 2 && (Digits.nat? 10 cs).any fun n => low ≤ n && n ≤ high

/-- The days of a month. -/
def daysIn (year month : Nat) : Nat :=
  if month = 2 then
    if year % 4 = 0 && (year % 100 ≠ 0 || year % 400 = 0) then 29 else 28
  else if month = 4 || month = 6 || month = 9 || month = 11 then 30 else 31

/-- Whether a word is a date: four, two and two digits of a day that exists. -/
def isDate (cs : List Char) : Bool :=
  match Text.splitChars '-' cs with
  | [year, month, day] =>
    match Digits.nat? 10 year, Digits.nat? 10 month with
    | some y, some m =>
      year.length = 4 && isTwoDigits 1 12 month && isTwoDigits 1 (daysIn y m) day
    | _, _ => false
  | _ => false

/-- Whether a word is a time of day, with an optional fraction of the second. -/
def isTime (cs : List Char) : Bool :=
  match Text.splitChars ':' cs with
  | [hour, minute, second] =>
    let fraction := second.drop 2
    isTwoDigits 0 23 hour && isTwoDigits 0 59 minute && isTwoDigits 0 60 (second.take 2) &&
      (fraction.isEmpty || (fraction.head? = some '.' && fraction.tail ≠ [] &&
        fraction.tail.all Char.isDigit))
  | _ => false

/-- Whether a word is a difference from universal time. -/
def isOffset (cs : List Char) : Bool :=
  match cs with
  | ['Z'] | ['z'] => true
  | c :: rest =>
    (c = '+' || c = '-') &&
      match Text.splitChars ':' rest with
      | [hour, minute] => isTwoDigits 0 23 hour && isTwoDigits 0 59 minute
      | _ => false
  | [] => false

/-- Whether a word is a time of day with an optional difference from universal time. -/
def isOffsetTime (cs : List Char) : Bool :=
  let time := cs.takeWhile fun c => c.isDigit || c = ':' || c = '.'
  let offset := cs.drop time.length
  isTime time && (offset.isEmpty || isOffset offset)

/-- Whether a word is a date, a time of day, or both. -/
def isMoment (word : List Char) : Bool :=
  let time := word.drop 11
  isDate word || isTime word ||
    (isDate (word.take 10) && (word[10]?).any (fun c => c = 'T' || c = 't' || c = ' ') &&
      isOffsetTime time)

/-- A character of a number, a date or a truth value. -/
def isWordChar (c : Char) : Bool :=
  c.isAlphanum || c = '+' || c = '-' || c = '_' || c = '.' || c = ':'

/-- A date is a mapping with one entry, so that it is neither a text nor a number. -/
def momentNode (word : List Char) : Node :=
  .mapping [(.text "date", .text (String.ofList word))]

/-- The node that a word stands for. -/
def wordNode (word : List Char) : Except Fault Node :=
  if word = "true".toList then .ok (.bool true)
  else if word = "false".toList then .ok (.bool false)
  else if isMoment word then .ok (momentNode word)
  else
    match whole? word, float? word with
    | some n, _ =>
      if Digits.fitsSigned n then .ok (.number (.int n))
      else .error (fault "number too large to fit in target type")
    | none, some x =>
      if x = .infinite false ∧ word.any Char.isDigit then
        .error (fault "floating-point number overflowed")
      else .ok (.number (.float x))
    | none, none => .error (fault "invalid value")

/-- A number, a date or a truth value. A single blank may part a date from its time of day. -/
def word (cs : List Char) : Except Fault (Node × List Char) := do
  let first := cs.takeWhile isWordChar
  let rest := cs.drop first.length
  let second := rest.tail.takeWhile isWordChar
  if isDate first ∧ rest.head? = some ' ' ∧ isOffsetTime second then
    return (momentNode (first ++ ' ' :: second), rest.drop (second.length + 1))
  return (← wordNode first, rest)

end NfvCatalog.Toml
