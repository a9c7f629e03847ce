import NfvCatalog.Document.Node
import NfvCatalog.Document.Yaml.Scalars

/-! # Tokens of YAML text

A text is cut into tokens from left to right. Indentation opens and closes blocks, which become
tokens of their own. A key of a mapping is recognised by the colon behind it; the tokens that open
the mapping and mark the key are then put in front of it.
-/

namespace NfvCatalog.Yaml

/-- The ways to write a scalar. -/
inductive ScalarStyle where
  | plain
  | quoted
  | literal
  | folded
deriving DecidableEq, Repr, Inhabited

/-- A token of a YAML text. The end of the text has none. -/
inductive Token where
  | documentStart
  | documentEnd
  | version
  | tagDirective (handle : String) (expansion : List UInt8)
  | blockSequence
  | blockMapping
  | blockEnd
  | flowSequence
  | flowSequenceEnd
  | flowMapping
  | flowMappingEnd
  | flowEntry
  | blockEntry
  | key
  | value
  | alias (name : String)
  | anchor (name : String)
  | tag (handle : String) (suffix : List UInt8)
  | scalar (style : ScalarStyle) (text : String)
deriving DecidableEq, Repr, Inhabited

/-- A place at which a key may have started: a later colon turns what stands there into a key. A key
is required where a block mapping must go on. -/
structure KeyStart where
  required : Bool
  tokensBefore : Nat
  line : Nat
  column : Nat
  index : Nat
deriving Repr

/-- The state of the cutting. -/
structure Scan where
  cursor : Cursor
  /-- The tokens so far, last first. -/
  tokens : List Token := []
  count : Nat := 0
  /-- The column of the innermost open block, and those around it. -/
  indent : Int := -1
  indents : List Int := []
  /-- The number of open brackets and braces. -/
  flow : Nat := 0
  keyAllowed : Bool := true
  /-- The possible start of a key, for each open bracket and for the block, innermost first. -/
  keys : List (Option KeyStart) := [none]

namespace Scan

/-- Append a token. -/
def emit (scan : Scan) (token : Token) : Scan :=
  { scan with tokens := token :: scan.tokens, count := scan.count + 1 }

/-- Put a token behind the first `before` tokens. -/
def emitAt (scan : Scan) (before : Nat) (token : Token) : Scan :=
  let later := scan.count - before
  { scan with
    tokens := scan.tokens.take later ++ token :: scan.tokens.drop later
    count := scan.count + 1 }

/-- Append a token that is `width` characters long here. -/
def emitSkip (scan : Scan) (token : Token) (width : Nat) : Scan :=
  { scan.emit token with cursor := scan.cursor.skip width }

/-- A fault at the present place. -/
def fault {α : Type} (scan : Scan) (reason : String) : Except Fault α :=
  .error (scan.cursor.fault reason)

/-! ## Blocks -/

/-- Open a block at a column if it is deeper than the present one, with its token behind the first
`before` tokens. -/
def openBlock (scan : Scan) (column before : Nat) (token : Token) : Scan :=
  if scan.flow ≠ 0 then scan
  else if scan.indent < column then
    { scan.emitAt before token with indent := column, indents := scan.indent :: scan.indents }
  else scan

/-- Close the blocks that are deeper than a column. -/
def closeBlocks (column : Int) : Nat → Scan → Scan
  | 0, scan => scan
  | fuel + 1, scan =>
    if scan.flow ≠ 0 then scan
    else if column < scan.indent then
      closeBlocks column fuel
        { scan.emit .blockEnd with indent := scan.indents.headD (-1), indents := scan.indents.tail }
    else scan

/-- Close the blocks that are deeper than a column. -/
def closeTo (scan : Scan) (column : Int) : Scan := closeBlocks column scan.indents.length scan

/-! ## Possible keys -/

/-- The possible key of the innermost level. -/
def currentKey (scan : Scan) : Option KeyStart := scan.keys.head?.join

/-- Give up the possible key of the innermost level; a required key cannot be given up. -/
def dropKey (scan : Scan) : Except Fault Scan :=
  match scan.currentKey with
  | some key =>
    if key.required then scan.fault "could not find expected ':'"
    else .ok { scan with keys := none :: scan.keys.tail }
  | none => .ok scan

/-- Note that a key may start here. -/
def noteKey (scan : Scan) : Except Fault Scan :=
  if scan.keyAllowed then do
    let scan ← scan.dropKey
    let key : KeyStart :=
      { required := scan.flow = 0 && scan.indent = scan.cursor.column
        tokensBefore := scan.count
        line := scan.cursor.line
        column := scan.cursor.column
        index := scan.cursor.index }
    return { scan with keys := some key :: scan.keys.tail }
  else .ok scan

/-- Whether a possible key can no longer become one: a key stays on its line and is at most 1024
characters long. -/
def isStale (scan : Scan) (key : KeyStart) : Bool :=
  key.line < scan.cursor.line || key.index + 1024 < scan.cursor.index

/-- Give up all possible keys that are stale. -/
def dropStaleKeys (scan : Scan) : Except Fault Scan :=
  let stale (key : Option KeyStart) : Bool := key.any scan.isStale
  if scan.keys.any fun key => stale key && key.any (·.required) then
    scan.fault "could not find expected ':'"
  else .ok { scan with keys := scan.keys.map fun key => if stale key then none else key }

/-! ## Between tokens -/

/-- Move to the next token. A line may start with a byte-order mark. A tab is white space only where
no key may start. A new line of a block may start a key. -/
def toContent : Nat → Scan → Scan
  | 0, scan => scan
  | fuel + 1, scan =>
    let blank (c : Char) : Bool := c = ' ' || ((scan.flow ≠ 0 || !scan.keyAllowed) && c = '\t')
    let cursor := scan.cursor.skipOrderMark.skipWhile blank
    let cursor := if cursor.sees '#' then cursor.skipLine else cursor
    match cursor.peek with
    | some c =>
      if isBreak c then
        toContent fuel
          { scan with
            cursor := cursor.skipBreak
            keyAllowed := if scan.flow = 0 then true else scan.keyAllowed }
      else { scan with cursor := cursor }
    | none => { scan with cursor := cursor }

/-! ## Directives, anchors and tags -/

/-- Read a name of letters, digits and joining marks. -/
def readName (cursor : Cursor) : String × Cursor :=
  let name := cursor.rest.takeWhile isNameChar
  (String.ofList name, cursor.skip name.length)

/-- The characters of a tag that stand for themselves. -/
def isTagChar (verbatim : Bool) (c : Char) : Bool :=
  isNameChar c || ";/?:@&=+$.%!~*'()".toList.contains c || (verbatim && ",[]".toList.contains c)

/-- The byte of a percent escape at the start of a text. -/
def escapedByte (cursor : Cursor) : Except Fault UInt8 :=
  match cursor.rest with
  | '%' :: high :: low :: _ =>
    match Digits.nat? 16 [high, low] with
    | some n => .ok (UInt8.ofNat n)
    | none => .error (cursor.fault "did not find URI escaped octet")
  | _ => .error (cursor.fault "did not find URI escaped octet")

/-- The number of bytes that a first byte asks for, none if it cannot be first. -/
def escapedWidth? (first : UInt8) : Option Nat :=
  if first &&& 0x80 = 0 then some 1
  else if first &&& 0xE0 = 0xC0 then some 2
  else if first &&& 0xF0 = 0xE0 then some 3
  else if first &&& 0xF8 = 0xF0 then some 4
  else none

/-- Read some escapes of bytes that go on a character. -/
def readContinuations : Nat → Cursor → Except Fault (List UInt8 × Cursor)
  | 0, cursor => .ok ([], cursor)
  | count + 1, cursor => do
    let byte ← escapedByte cursor
    if !Utf8.isContinuation byte then
      throw (cursor.fault "found an incorrect trailing UTF-8 octet")
    let (bytes, cursor) ← readContinuations count (cursor.skip 3)
    return (byte :: bytes, cursor)

/-- Read the escapes of a character. Its bytes have to be as many as the first one says; whether
they are the bytes of any character does not count. -/
def readEscapes (cursor : Cursor) : Except Fault (List UInt8 × Cursor) := do
  let first ← escapedByte cursor
  match escapedWidth? first with
  | none => throw (cursor.fault "found an incorrect leading UTF-8 octet")
  | some width =>
    let (bytes, cursor) ← readContinuations (width - 1) (cursor.skip 3)
    return (first :: bytes, cursor)

/-- Read the bytes of a tag, some of them escaped. -/
def readTagBytes (verbatim : Bool) : Nat → Cursor → Except Fault (List UInt8 × Cursor)
  | 0, cursor => .ok ([], cursor)
  | fuel + 1, cursor =>
    match cursor.peek with
    | some '%' => do
      let (bytes, cursor) ← readEscapes cursor
      let (rest, cursor) ← readTagBytes verbatim fuel cursor
      return (bytes ++ rest, cursor)
    | some c =>
      if isTagChar verbatim c then do
        let (rest, cursor) ← readTagBytes verbatim fuel (cursor.skip 1)
        return (UInt8.ofNat c.toNat :: rest, cursor)
      else .ok ([], cursor)
    | none => .ok ([], cursor)

/-- Read a tag after `head`, of which at least one byte is needed. It ends at a byte that is
zero. -/
def readTagUri (verbatim : Bool) (head : List Char) (cursor : Cursor) :
    Except Fault (List UInt8 × Cursor) := do
  let (bytes, after) ← readTagBytes verbatim (cursor.rest.length + 1) cursor
  if head.isEmpty && bytes.isEmpty then throw (cursor.fault "did not find expected tag URI")
  let start := (head.drop 1).map fun c => UInt8.ofNat c.toNat
  return ((start ++ bytes).takeWhile (· ≠ 0), after)

/-- Read a handle: an exclamation mark, a name, and perhaps a second mark. -/
def readHandle (cursor : Cursor) : Except Fault (List Char × Cursor) :=
  if cursor.sees '!' then
    let name := (cursor.rest.drop 1).takeWhile isNameChar
    let after := cursor.skip (name.length + 1)
    if after.sees '!' then .ok ('!' :: name ++ ['!'], after.skip 1) else .ok ('!' :: name, after)
  else .error (cursor.fault "did not find expected '!'")

/-- Read a tag: verbatim in angle brackets, after a handle, or after one exclamation mark. -/
def readTag (inFlow : Bool) (cursor : Cursor) : Except Fault (Token × Cursor) := do
  let (token, after) ←
    if cursor.peekAt 1 = some '<' then do
      let (suffix, after) ← readTagUri true [] (cursor.skip 2)
      if !after.sees '>' then throw (after.fault "did not find the expected '>'")
      pure (Token.tag "" suffix, after.skip 1)
    else do
      let (handle, after) ← readHandle cursor
      if 2 ≤ handle.length && handle.getLast? = some '!' then do
        let (suffix, after) ← readTagUri false [] after
        pure (Token.tag (String.ofList handle) suffix, after)
      else do
        let (suffix, after) ← readTagUri false handle after
        pure (if suffix.isEmpty then Token.tag "" [Tag.mark] else Token.tag "!" suffix, after)
  if endsWord after.peek || (inFlow && after.sees ',') then return (token, after)
  throw (after.fault "did not find expected whitespace or line break")

/-- Read the name of an anchor or an alias after its mark. -/
def readAnchor (cursor : Cursor) : Except Fault (String × Cursor) :=
  let (name, after) := readName (cursor.skip 1)
  let ends := match after.peek with
    | some c => "?:,]\x7d%@`".toList.contains c
    | none => false
  if !name.isEmpty && (endsWord after.peek || ends) then .ok (name, after)
  else .error (cursor.fault "did not find expected alphabetic or numeric character")

/-- The most digits of either part of a version. -/
def versionDigits : Nat := 9

/-- Read a directive line after its percent sign. -/
def readDirective (cursor : Cursor) : Except Fault (Token × Cursor) := do
  let (name, after) := readName (cursor.skip 1)
  if name.isEmpty then throw (cursor.fault "could not find expected directive name")
  if !endsWord after.peek then throw (cursor.fault "found unexpected non-alphabetical character")
  let body := after.skipWhile isSeparator
  let (token, after) ←
    if name = "YAML" then do
      let major := body.rest.takeWhile Char.isDigit
      let point := body.skip major.length
      if major.isEmpty || !point.sees '.' then
        throw (body.fault "did not find expected digit or '.' character")
      let minor := (point.skip 1).rest.takeWhile Char.isDigit
      if versionDigits < major.length || versionDigits < minor.length then
        throw (body.fault "found extremely long version number")
      if major.dropWhile (· = '0') != ['1'] ||
          !(minor.dropWhile (· = '0') = ['1'] || minor.dropWhile (· = '0') = ['2']) then
        throw (body.fault "found incompatible YAML document")
      pure (Token.version, point.skip (minor.length + 1))
    else if name = "TAG" then do
      let (handle, after) ← readHandle body
      if handle.length ≠ 1 && handle.getLast? ≠ some '!' then
        throw (body.fault "did not find expected '!'")
      if !(after.peek.any isSeparator) then throw (after.fault "did not find expected whitespace")
      let (expansion, after) ← readTagUri true [] (after.skipWhile isSeparator)
      if !endsWord after.peek then
        throw (after.fault "did not find expected whitespace or line break")
      pure (Token.tagDirective (String.ofList handle) expansion, after)
    else throw (cursor.fault "found unknown directive name")
  let after := after.skipRemark
  if !endsLine after.peek then throw (after.fault "did not find expected comment or line break")
  return (token, if after.rest.isEmpty then after else after.skipBreak)

/-! ## One token -/

/-- The end of all open blocks at a document marker or directive. -/
def leaveDocument (scan : Scan) : Except Fault Scan := do
  let scan ← (scan.closeTo (-1)).dropKey
  return { scan with keyAllowed := false }

/-- An opening bracket or brace. -/
def openFlow (scan : Scan) (token : Token) : Except Fault Scan := do
  let scan ← scan.noteKey
  let scan := { scan with keys := none :: scan.keys, flow := scan.flow + 1, keyAllowed := true }
  return scan.emitSkip token 1

/-- A closing bracket or brace. -/
def closeFlow (scan : Scan) (token : Token) : Except Fault Scan := do
  let scan ← scan.dropKey
  let scan := if scan.flow = 0 then scan
    else { scan with keys := scan.keys.tail, flow := scan.flow - 1 }
  return { scan with keyAllowed := false }.emitSkip token 1

/-- A comma in brackets or braces. -/
def separateFlow (scan : Scan) : Except Fault Scan := do
  let scan ← scan.dropKey
  return { scan with keyAllowed := true }.emitSkip .flowEntry 1

/-- A dash before an item. -/
def startEntry (scan : Scan) : Except Fault Scan := do
  if scan.flow = 0 && !scan.keyAllowed then
    scan.fault "block sequence entries are not allowed in this context"
  let scan := scan.openBlock scan.cursor.column scan.count .blockSequence
  let scan ← scan.dropKey
  return { scan with keyAllowed := true }.emitSkip .blockEntry 1

/-- A question mark before a key. -/
def startKey (scan : Scan) : Except Fault Scan := do
  if scan.flow = 0 && !scan.keyAllowed then
    scan.fault "mapping keys are not allowed in this context"
  let scan := scan.openBlock scan.cursor.column scan.count .blockMapping
  let scan ← scan.dropKey
  return { scan with keyAllowed := scan.flow = 0 }.emitSkip .key 1

/-- A colon before a value. If a key may have started before it, that is the key. -/
def startValue (scan : Scan) : Except Fault Scan :=
  match scan.currentKey with
  | some key =>
    let scan := scan.emitAt key.tokensBefore .key
    let scan := scan.openBlock key.column key.tokensBefore .blockMapping
    .ok ({ scan with keys := none :: scan.keys.tail, keyAllowed := false }.emitSkip .value 1)
  | none =>
    if scan.flow = 0 && !scan.keyAllowed then
      scan.fault "mapping values are not allowed in this context"
    else
      let scan := scan.openBlock scan.cursor.column scan.count .blockMapping
      .ok ({ scan with keyAllowed := scan.flow = 0 }.emitSkip .value 1)

/-- A literal or folded scalar. -/
def blockScalar (scan : Scan) (literal : Bool) : Except Fault Scan := do
  let scan ← scan.dropKey
  let (text, cursor) ← readBlockScalar literal scan.indent (scan.cursor.skip 1)
  let style : ScalarStyle := if literal then .literal else .folded
  return { scan.emit (.scalar style text) with cursor := cursor, keyAllowed := true }

/-- A scalar in quotes. -/
def quotedScalar (scan : Scan) (double : Bool) : Except Fault Scan := do
  let scan ← scan.noteKey
  let start := scan.cursor.skip 1
  let (text, cursor) ← quotedText double (start.rest.length + 2) [] start
  return { scan.emit (.scalar .quoted (String.ofList text.reverse)) with
    cursor := cursor
    keyAllowed := false }

/-- An unquoted scalar. -/
def plainScalar (scan : Scan) : Except Fault Scan := do
  let scan ← scan.noteKey
  let scalar ← plainWords (scan.flow ≠ 0) (scan.indent + 1) (scan.cursor.rest.length + 1) [] { }
    scan.cursor
  return { scan.emit (.scalar .plain (String.ofList scalar.done.reverse)) with
    cursor := scalar.cursor
    keyAllowed := scalar.endsLine }

/-- The characters that cannot start an unquoted scalar. -/
def isIndicator (c : Char) : Bool := "-?:,[]\x7b\x7d#&*!|>'\"%@`".toList.contains c

/-- Whether an unquoted scalar may start here. -/
def startsPlain (scan : Scan) (c : Char) : Bool :=
  let next := scan.cursor.peekAt 1
  !(isIndicator c || endsWord (some c)) || (c = '-' && !(next.any isSeparator)) ||
    (scan.flow = 0 && (c = '?' || c = ':') && !endsWord next)

/-- Read the token that starts with a character. -/
def token (scan : Scan) (c : Char) : Except Fault Scan :=
  let endsHere := endsWord (scan.cursor.peekAt 1)
  if scan.cursor.column = 0 ∧ c = '%' then do
    let scan ← scan.leaveDocument
    let (token, cursor) ← readDirective scan.cursor
    return { scan.emit token with cursor := cursor }
  else if scan.cursor.seesMarker '-' then do
    return (← scan.leaveDocument).emitSkip .documentStart 3
  else if scan.cursor.seesMarker '.' then do
    return (← scan.leaveDocument).emitSkip .documentEnd 3
  else if c = '[' then scan.openFlow .flowSequence
  else if c = '\x7b' then scan.openFlow .flowMapping
  else if c = ']' then scan.closeFlow .flowSequenceEnd
  else if c = '\x7d' then scan.closeFlow .flowMappingEnd
  else if c = ',' then scan.separateFlow
  else if c = '-' ∧ endsHere then scan.startEntry
  else if c = '?' ∧ (scan.flow ≠ 0 ∨ endsHere) then scan.startKey
  else if c = ':' ∧ (scan.flow ≠ 0 ∨ endsHere) then scan.startValue
  else if c = '*' ∨ c = '&' then do
    let scan ← scan.noteKey
    let (name, cursor) ← readAnchor scan.cursor
    return { scan.emit (if c = '*' then .alias name else .anchor name) with
      cursor := cursor
      keyAllowed := false }
  else if c = '!' then do
    let scan ← scan.noteKey
    let (token, cursor) ← readTag (scan.flow ≠ 0) scan.cursor
    return { scan.emit token with cursor := cursor, keyAllowed := false }
  else if c = '|' ∧ scan.flow = 0 then scan.blockScalar true
  else if c = '>' ∧ scan.flow = 0 then scan.blockScalar false
  else if c = '\'' then scan.quotedScalar false
  else if c = '"' then scan.quotedScalar true
  else if scan.startsPlain c then scan.plainScalar
  else scan.fault "found character that cannot start any token"

/-- Read all tokens. Each one takes at least a character. -/
def run : Nat → Scan → Except Fault Scan
  | 0, scan => .ok scan
  | fuel + 1, scan => do
    let scan ← (scan.toContent (scan.cursor.rest.length + 1)).dropStaleKeys
    let scan := scan.closeTo scan.cursor.column
    match scan.cursor.peek with
    | none =>
      let line := if scan.cursor.column = 0 then scan.cursor.line else scan.cursor.line + 1
      let atEnd := { scan with cursor := { scan.cursor with line := line, column := 0 } }
      (atEnd.closeTo (-1)).dropKey
    | some c => run fuel (← scan.token c)

end Scan

/-- The tokens of a text. -/
def Token.ofText (text : String) : Except Fault (List Token) := do
  let cs := text.toList
  if !cs.all isAllowed then throw (.other "control characters are not allowed")
  let scan ← Scan.run (cs.length + 1) { cursor := { rest := cs } }
  return scan.tokens.reverse

end NfvCatalog.Yaml
