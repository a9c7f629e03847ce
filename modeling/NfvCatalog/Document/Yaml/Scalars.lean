import NfvCatalog.Document.Yaml.Cursor

/-! # Scalars of YAML text

The five ways to write a scalar: unquoted, in single or double quotes, literal and folded. Each
reader takes the place where the scalar starts and gives its text and the place behind it.
-/

namespace NfvCatalog.Yaml

/-- The white space between two words: blanks of a line, or line ends. -/
structure Gap where
  blanks : List Char := []
  firstBreak : List Char := []
  laterBreaks : List Char := []
  crossesLine : Bool := false

namespace Gap

/-- The text that a gap stands for: one line end folds into a space, of several the first is
dropped. -/
def text (gap : Gap) : List Char :=
  if gap.crossesLine then
    if gap.firstBreak.head? = some '\n' then
      if gap.laterBreaks.isEmpty then [' '] else gap.laterBreaks
    else gap.firstBreak ++ gap.laterBreaks
  else gap.blanks

/-- Add one separator or line end. -/
def add (gap : Gap) (cursor : Cursor) : Gap :=
  match cursor.peek with
  | some c =>
    if isSeparator c then
      if gap.crossesLine then gap else { gap with blanks := gap.blanks ++ [c] }
    else if gap.crossesLine then { gap with laterBreaks := gap.laterBreaks ++ cursor.breakText }
    else { gap with blanks := [], firstBreak := cursor.breakText, crossesLine := true }
  | none => gap

end Gap

/-- Read a gap. In an unquoted scalar a tab may not stand in for indentation: `indent` is the least
column of the scalar's lines there. -/
def readGap (indent : Option Int) : Nat → Gap → Cursor → Except Fault (Gap × Cursor)
  | 0, gap, cursor => .ok (gap, cursor)
  | fuel + 1, gap, cursor =>
    match cursor.peek with
    | some c =>
      if isSeparator c then
        let abuses := match indent with
          | some least => gap.crossesLine && c = '\t' && (cursor.column : Int) < least
          | none => false
        if abuses then .error (cursor.fault "found a tab character that violates indentation")
        else readGap indent fuel (gap.add cursor) (cursor.skip 1)
      else if isBreak c then readGap indent fuel (gap.add cursor) cursor.skipBreak
      else .ok (gap, cursor)
    | none => .ok (gap, cursor)

/-! ## Unquoted scalars -/

/-- Whether an unquoted scalar ends at this character. -/
def endsPlain (inFlow : Bool) (cursor : Cursor) : Bool :=
  (cursor.sees ':' && endsWord (cursor.peekAt 1)) ||
    (inFlow && match cursor.peek with
      | some c => c = ',' || c = '[' || c = ']' || c = '\x7b' || c = '\x7d'
      | none => false)

/-- Whether a colon stands directly before a flow indicator. -/
def misplacedColon (inFlow : Bool) (cursor : Cursor) : Bool :=
  inFlow && cursor.sees ':' && match cursor.peekAt 1 with
    | some c => c = ',' || c = '?' || c = '[' || c = ']' || c = '\x7b' || c = '\x7d'
    | none => false

/-- The characters of a word of an unquoted scalar, last first. -/
def plainWord (inFlow : Bool) : Nat → List Char → Cursor → Except Fault (List Char × Cursor)
  | 0, done, cursor => .ok (done, cursor)
  | fuel + 1, done, cursor =>
    match cursor.peek with
    | some c =>
      if isSeparator c || isBreak c then .ok (done, cursor)
      else if misplacedColon inFlow cursor then .error (cursor.fault "found unexpected ':'")
      else if endsPlain inFlow cursor then .ok (done, cursor)
      else plainWord inFlow fuel (c :: done) (cursor.skip 1)
    | none => .ok (done, cursor)

/-- An unquoted scalar as read so far. -/
structure PlainScalar where
  /-- The text, last character first. -/
  done : List Char
  cursor : Cursor
  /-- Whether the scalar was ended by a new line. -/
  endsLine : Bool

/-- The words of an unquoted scalar, with the gap before the next one. -/
def plainWords (inFlow : Bool) (indent : Int) :
    Nat → List Char → Gap → Cursor → Except Fault PlainScalar
  | 0, done, gap, cursor => .ok ⟨done, cursor, gap.crossesLine⟩
  | fuel + 1, done, gap, cursor =>
    if cursor.seesAnyMarker || cursor.sees '#' then .ok ⟨done, cursor, gap.crossesLine⟩
    else do
      let (word, after) ← plainWord inFlow (cursor.rest.length + 1) [] cursor
      let (done, gap) := if word.isEmpty then (done, gap)
        else (word ++ (gap.text.reverse ++ done), { })
      match after.peek with
      | some c =>
        if isSeparator c || isBreak c then
          let (gap, next) ← readGap (some indent) (after.rest.length + 1) gap after
          if !inFlow && (next.column : Int) < indent then return ⟨done, next, gap.crossesLine⟩
          plainWords inFlow indent fuel done gap next
        else return ⟨done, after, gap.crossesLine⟩
      | none => return ⟨done, after, gap.crossesLine⟩

/-! ## Quoted scalars -/

/-- The character of an escape that is one letter long. -/
def letterEscape? : Char → Option Char
  | '0' => some (Char.ofNat 0)
  | 'a' => some (Char.ofNat 7)
  | 'b' => some (Char.ofNat 8)
  | 't' | '\t' => some '\t'
  | 'n' => some '\n'
  | 'v' => some (Char.ofNat 11)
  | 'f' => some (Char.ofNat 12)
  | 'r' => some '\r'
  | 'e' => some (Char.ofNat 0x1B)
  | ' ' => some ' '
  | '"' => some '"'
  | '/' => some '/'
  | '\\' => some '\\'
  | 'N' => some (Char.ofNat 0x85)
  | '_' => some (Char.ofNat 0xA0)
  | 'L' => some (Char.ofNat 0x2028)
  | 'P' => some (Char.ofNat 0x2029)
  | _ => none

/-- The count of digits after the letter of a numeric escape. -/
def escapeDigits? : Char → Option Nat
  | 'x' => some 2
  | 'u' => some 4
  | 'U' => some 8
  | _ => none

/-- The character of an escape, after its backslash. -/
def readEscape (cursor : Cursor) : Except Fault (Char × Cursor) :=
  match cursor.peek with
  | none => .error (cursor.fault "found unknown escape character")
  | some letter =>
    match letterEscape? letter, escapeDigits? letter with
    | some c, _ => .ok (c, cursor.skip 1)
    | none, some count =>
      let digits := (cursor.rest.drop 1).take count
      match if digits.length = count then Digits.nat? 16 digits else none with
      | some code =>
        if (0xD800 ≤ code ∧ code ≤ 0xDFFF) ∨ 0x10FFFF < code then
          .error (cursor.fault "found invalid Unicode character escape code")
        else .ok (Char.ofNat code, cursor.skip (count + 1))
      | none => .error (cursor.fault "did not find expected hexadecimal number")
    | none, none => .error (cursor.fault "found unknown escape character")

/-- A stretch of a quoted scalar without gaps. -/
structure QuotedWord where
  /-- The text, last character first. -/
  done : List Char
  cursor : Cursor
  /-- Whether it was ended by an escaped line end. -/
  escapedBreak : Bool

/-- The characters of a quoted scalar up to a gap or the closing quote. -/
def quotedWord (double : Bool) : Nat → List Char → Cursor → Except Fault QuotedWord
  | 0, done, cursor => .ok ⟨done, cursor, false⟩
  | fuel + 1, done, cursor =>
    match cursor.rest with
    | [] => .ok ⟨done, cursor, false⟩
    | c :: rest =>
      if isSeparator c || isBreak c then .ok ⟨done, cursor, false⟩
      else if !double && c = '\'' then
        if rest.head? = some '\'' then quotedWord double fuel ('\'' :: done) (cursor.skip 2)
        else .ok ⟨done, cursor, false⟩
      else if double && c = '"' then .ok ⟨done, cursor, false⟩
      else if double && c = '\\' then
        match rest with
        | next :: _ =>
          if isBreak next then .ok ⟨done, (cursor.skip 1).skipBreak, true⟩
          else do
            let (c, cursor) ← readEscape (cursor.skip 1)
            quotedWord double fuel (c :: done) cursor
        | [] => .error (cursor.fault "found unknown escape character")
      else quotedWord double fuel (c :: done) (cursor.skip 1)

/-- The text of a quoted scalar after its opening quote, last character first. -/
def quotedText (double : Bool) : Nat → List Char → Cursor → Except Fault (List Char × Cursor)
  | 0, _, cursor => .error (cursor.fault "found unexpected end of stream")
  | fuel + 1, done, cursor =>
    if cursor.seesAnyMarker then .error (cursor.fault "found unexpected document indicator")
    else if cursor.rest.isEmpty then .error (cursor.fault "found unexpected end of stream")
    else do
      let word ← quotedWord double (cursor.rest.length + 1) done cursor
      if word.cursor.sees (if double then '"' else '\'') then
        return (word.done, word.cursor.skip 1)
      let start : Gap := if word.escapedBreak then { crossesLine := true } else { }
      let (gap, cursor) ← readGap none (word.cursor.rest.length + 1) start word.cursor
      quotedText double fuel (gap.text.reverse ++ word.done) cursor

/-! ## Block scalars -/

/-- What becomes of the line ends at the end of a block scalar. -/
inductive Chomping where
  | strip
  | clip
  | keep
deriving DecidableEq, Repr

/-- The header of a block scalar: chomping and the indentation given in digits. -/
structure BlockHeader where
  chomping : Chomping := .clip
  increment : Nat := 0

/-- The chomping that an indicator stands for. -/
def chomping? : Option Char → Option Chomping
  | some '+' => some .keep
  | some '-' => some .strip
  | _ => none

/-- Read an indentation digit, which is not zero. -/
def readIncrement (cursor : Cursor) : Except Fault (Nat × Cursor) :=
  match cursor.peek with
  | some c =>
    if c = '0' then .error (cursor.fault "found an indentation indicator equal to 0")
    else if c.isDigit then .ok (c.toNat - '0'.toNat, cursor.skip 1)
    else .ok (0, cursor)
  | none => .ok (0, cursor)

/-- Read the two indicators of a block scalar in either order. -/
def readBlockHeader (cursor : Cursor) : Except Fault (BlockHeader × Cursor) :=
  match chomping? cursor.peek with
  | some chomping => do
    let (increment, cursor) ← readIncrement (cursor.skip 1)
    return (⟨chomping, increment⟩, cursor)
  | none => do
    let (increment, after) ← readIncrement cursor
    if increment = 0 then return ({ }, after)
    match chomping? after.peek with
    | some chomping => return (⟨chomping, increment⟩, after.skip 1)
    | none => return (⟨.clip, increment⟩, after)

/-- Blank lines before a line of a block scalar. -/
structure BlankLines where
  breaks : List Char
  widest : Nat
  cursor : Cursor

/-- Read blank lines and the indentation of the next line. An indentation of zero is not known
yet. -/
def readBlankLines (indent : Nat) : Nat → List Char → Nat → Cursor → Except Fault BlankLines
  | 0, breaks, widest, cursor => .ok ⟨breaks, widest, cursor⟩
  | fuel + 1, breaks, widest, cursor =>
    let spaces := (cursor.rest.takeWhile (· = ' ')).length
    let eaten := if indent = 0 then spaces else min spaces (indent - cursor.column)
    let cursor := cursor.skip eaten
    let widest := max widest cursor.column
    if (indent = 0 || cursor.column < indent) && cursor.sees '\t' then
      .error (cursor.fault "found a tab character where an indentation space is expected")
    else
      match cursor.peek with
      | some c =>
        if isBreak c then
          readBlankLines indent fuel (breaks ++ cursor.breakText) widest cursor.skipBreak
        else .ok ⟨breaks, widest, cursor⟩
      | none => .ok ⟨breaks, widest, cursor⟩

/-- The lines of a block scalar as read so far. -/
structure BlockLines where
  /-- The text, last character first. -/
  done : List Char
  lastBreak : List Char
  blankBreaks : List Char
  cursor : Cursor

/-- Read the lines of a block scalar. In a folded one the line end between two lines that do not
start with a blank becomes a space. -/
def readBlockLines (literal : Bool) (indent : Nat) :
    Nat → Bool → BlockLines → Except Fault BlockLines
  | 0, _, lines => .ok lines
  | fuel + 1, afterBlank, lines =>
    match lines.cursor.peek with
    | none => .ok lines
    | some c =>
      if lines.cursor.column ≠ indent then .ok lines
      else
        let blank := isSeparator c
        let folds := !literal && lines.lastBreak.head? = some '\n' && !afterBlank && !blank
        let joined := if folds then (if lines.blankBreaks.isEmpty then [' '] else [])
          else lines.lastBreak
        let body := lines.cursor.rest.takeWhile fun c => !isBreak c
        let after := lines.cursor.skip body.length
        let done := body.reverse ++ (lines.blankBreaks.reverse ++ (joined.reverse ++ lines.done))
        let next := if after.rest.isEmpty then after else after.skipBreak
        do
          let blanks ← readBlankLines indent (next.rest.length + 1) [] 0 next
          readBlockLines literal indent fuel blank
            ⟨done, after.breakText, blanks.breaks, blanks.cursor⟩

/-- Read a block scalar after its indicator; `parent` is the indentation of the enclosing block. -/
def readBlockScalar (literal : Bool) (parent : Int) (cursor : Cursor) :
    Except Fault (String × Cursor) := do
  let (header, cursor) ← readBlockHeader cursor
  let cursor := cursor.skipRemark
  if !endsLine cursor.peek then
    throw (cursor.fault "did not find expected comment or line break")
  let cursor := if cursor.rest.isEmpty then cursor else cursor.skipBreak
  let given : Nat := if header.increment = 0 then 0
    else if 0 ≤ parent then parent.toNat + header.increment else header.increment
  let blanks ← readBlankLines given (cursor.rest.length + 1) [] 0 cursor
  let indent := if given = 0 then max blanks.widest (max (parent + 1).toNat 1) else given
  let lines ← readBlockLines literal indent (cursor.rest.length + 1) false
    ⟨[], [], blanks.breaks, blanks.cursor⟩
  let tail := match header.chomping with
    | .strip => []
    | .clip => lines.lastBreak
    | .keep => lines.lastBreak ++ lines.blankBreaks
  return (String.ofList (lines.done.reverse ++ tail), lines.cursor)

end NfvCatalog.Yaml
