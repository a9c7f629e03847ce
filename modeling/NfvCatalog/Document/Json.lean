import NfvCatalog.Document.Node

/-! # JSON text

Reading follows the JSON grammar strictly; a part that is well formed but stands for nothing is only
a fault where it is read. A number with a point or an exponent, or one beyond 64
bits, is a floating-point number; its digits are gathered into 64 bits and scaled by one
multiplication or division per power of ten, so it may differ from the nearest number in the last
place. Printing comes in a compact and an indented form.
-/

namespace NfvCatalog.Json

/-- The deepest nesting that is read. -/
def depthLimit : Nat := 127

/-- A fault of JSON text. -/
def fault (reason : String) : Fault := .other reason

/-- The four white-space characters of JSON. -/
def isSpace (c : Char) : Bool := c = ' ' || c = '\n' || c = '\t' || c = '\r'

/-- Drop white space. -/
def skip (cs : List Char) : List Char := cs.dropWhile isSpace

/-! ## Strings -/

/-- The value of four hexadecimal digits. -/
def hex4? : List Char → Option (Nat × List Char)
  | a :: b :: c :: d :: rest => (Digits.nat? 16 [a, b, c, d]).map (·, rest)
  | _ => none

/-- The character of an escape that is one letter long. -/
def letterEscape? : Char → Option Char
  | '"' => some '"'
  | '\\' => some '\\'
  | '/' => some '/'
  | 'b' => some (Char.ofNat 8)
  | 'f' => some (Char.ofNat 12)
  | 'n' => some '\n'
  | 'r' => some '\r'
  | 't' => some '\t'
  | _ => none

/-- Whether a unit is the first half of a pair. -/
def isLeading (unit : Nat) : Bool := 0xD800 ≤ unit && unit < 0xDC00

/-- Whether a unit is the second half of a pair. -/
def isTrailing (unit : Nat) : Bool := 0xDC00 ≤ unit && unit < 0xE000

/-- The character written as `\u` and four digits, or as a pair of them; none for a lone half. -/
def unicodeEscape (cs : List Char) : Except Fault (Option Char × List Char) :=
  match hex4? cs with
  | none => .error (fault "invalid escape")
  | some (unit, rest) =>
    if isLeading unit then
      match rest with
      | '\\' :: 'u' :: tail =>
        match hex4? tail with
        | some (second, after) =>
          if isTrailing second then
            .ok (some (Char.ofNat (0x10000 + (unit - 0xD800) * 0x400 + (second - 0xDC00))), after)
          else .ok (none, rest)
        | none => .error (fault "invalid escape")
      | _ => .ok (none, rest)
    else if isTrailing unit then .ok (none, rest)
    else .ok (some (Char.ofNat unit), rest)

/-- The rest of a string after its opening quote; `fuel` bounds the characters read. A string with a
lone half of a pair is well formed, but it has no text. -/
def stringBody : Nat → Option (List Char) → List Char → Except Fault (Option String × List Char)
  | 0, _, _ => .error (fault "unterminated string")
  | fuel + 1, done, cs =>
    match cs with
    | [] => .error (fault "unterminated string")
    | '"' :: rest => .ok (done.map fun done => String.ofList done.reverse, rest)
    | '\\' :: 'u' :: rest => do
      let (c, rest) ← unicodeEscape rest
      stringBody fuel (do return (← c) :: (← done)) rest
    | '\\' :: c :: rest =>
      match letterEscape? c with
      | some c => stringBody fuel (done.map (c :: ·)) rest
      | none => .error (fault "invalid escape")
    | c :: rest =>
      if c.toNat < 0x20 then .error (fault "control character in string")
      else stringBody fuel (done.map (c :: ·)) rest

/-- The node of a string. -/
def stringNode : Option String → Node
  | some text => .text text
  | none => .unreadable (fault "lone surrogate")

/-! ## Numbers -/

/-- Digits gathered into 64 bits, and the digits left when the next one does not fit. -/
def gather (value : Nat) : List Char → Nat × List Char
  | [] => (value, [])
  | c :: rest =>
    match Digits.digit? c with
    | some d =>
      if value * 10 + d < UInt64.size then gather (value * 10 + d) rest else (value, c :: rest)
    | none => (value, c :: rest)

/-- A significand scaled by a power of ten, one exactly representable power at a time. Nothing when
the result is too large. -/
def scaled? (significand : Nat) (exponent : Int) : Option Binary64 :=
  go 40 (Binary64.ofNat significand) exponent
where
  /-- Divide by `10 ^ 308` until one step is left. -/
  go : Nat → Binary64 → Int → Option Binary64
    | 0, _, _ => some (Binary64.zero false)
    | fuel + 1, x, exponent =>
      if exponent.natAbs ≤ 308 then
        let power := Binary64.ofNat (Nat.pow 10 exponent.natAbs)
        let result := if 0 ≤ exponent then x.mul power else x.div power
        if result.isFinite then some result else none
      else if x = Binary64.zero false then some x
      else if 0 ≤ exponent then none
      else go fuel (x.div (Binary64.ofNat (Nat.pow 10 308))) (exponent + 308)

/-- A number that is too large for the format. -/
def outOfRange : Node := .unreadable (fault "number out of range")

/-- A floating-point number with a sign. -/
def floatNode (negative : Bool) (significand : Nat) (exponent : Int) : Node :=
  match scaled? significand exponent with
  | some x => .number (.float (if negative then x.neg else x))
  | none => outOfRange

/-- The exponent after its mark. -/
def exponentPart (negative : Bool) (significand : Nat) (exponent : Int) (cs : List Char) :
    Except Fault (Node × List Char) :=
  let (down, cs) := match cs with
    | '+' :: rest => (false, rest)
    | '-' :: rest => (true, rest)
    | _ => (false, cs)
  let digits := cs.takeWhile Char.isDigit
  let rest := cs.dropWhile Char.isDigit
  match Digits.nat? 10 digits with
  | none => .error (fault "invalid number")
  | some e =>
    if 0x80000000 ≤ e then
      .ok (if significand ≠ 0 ∧ !down then outOfRange
        else .number (.float (Binary64.zero negative)), rest)
    else .ok (floatNode negative significand (if down then exponent - e else exponent + e), rest)

/-- The digits after the point. -/
def fractionPart (negative : Bool) (significand : Nat) (exponent : Int) (cs : List Char) :
    Except Fault (Node × List Char) :=
  let digits := cs.takeWhile Char.isDigit
  let rest := cs.dropWhile Char.isDigit
  if digits.isEmpty then .error (fault "invalid number")
  else
    let (significand, unread) := gather significand digits
    let exponent := exponent - ((digits.length : Int) - unread.length)
    match rest with
    | 'e' :: tail | 'E' :: tail => exponentPart negative significand exponent tail
    | _ => .ok (floatNode negative significand exponent, rest)

/-- A whole number without point and exponent. -/
def wholeNode (negative : Bool) (n : Nat) : Node :=
  if negative then
    if n = 0 ∨ 0x8000000000000000 < n then .number (.float (Binary64.ofNat n).neg)
    else .number (.int (-(n : Int)))
  else .number (.int n)

/-- A number after its sign. -/
def numberBody (negative : Bool) (cs : List Char) : Except Fault (Node × List Char) :=
  let digits := cs.takeWhile Char.isDigit
  let rest := cs.dropWhile Char.isDigit
  match digits with
  | [] => .error (fault "invalid number")
  | '0' :: _ :: _ => .error (fault "invalid number")
  | _ =>
    let (significand, unread) := gather 0 digits
    match rest with
    | '.' :: tail => fractionPart negative significand unread.length tail
    | 'e' :: tail | 'E' :: tail => exponentPart negative significand unread.length tail
    | _ =>
      .ok (if unread.isEmpty then wholeNode negative significand
        else floatNode negative significand unread.length, rest)

/-! ## Values -/

/-- A collection, of which `depth` levels can be read. -/
def atDepth (depth : Nat) (node : Node) : Node := if depth = 0 then .unreadable .tooDeep else node

mutual

/-- A value; `fuel` bounds the characters read, and `depth` more levels of nesting can be read. -/
def value : Nat → Nat → List Char → Except Fault (Node × List Char)
  | 0, _, _ => .error (fault "unexpected end")
  | fuel + 1, depth, cs =>
    match skip cs with
    | [] => .error (fault "unexpected end")
    | 'n' :: 'u' :: 'l' :: 'l' :: rest => .ok (.null, rest)
    | 't' :: 'r' :: 'u' :: 'e' :: rest => .ok (.bool true, rest)
    | 'f' :: 'a' :: 'l' :: 's' :: 'e' :: rest => .ok (.bool false, rest)
    | '"' :: rest => do
      let (s, rest) ← stringBody (rest.length + 1) (some []) rest
      return (stringNode s, rest)
    | '-' :: rest => numberBody true rest
    | '[' :: rest =>
      match skip rest with
      | ']' :: rest => .ok (atDepth depth (.sequence []), rest)
      | rest => do
        let (items, rest) ← items fuel (depth - 1) rest
        return (atDepth depth (.sequence items), rest)
    | '\x7b' :: rest =>
      match skip rest with
      | '\x7d' :: rest => .ok (atDepth depth (.mapping []), rest)
      | rest => do
        let (members, rest) ← members fuel (depth - 1) rest
        return (atDepth depth (.mapping members), rest)
    | c :: rest =>
      if c.isDigit then numberBody false (c :: rest) else .error (fault "expected value")

/-- The items of a list up to its closing bracket. -/
def items : Nat → Nat → List Char → Except Fault ((List Node) × List Char)
  | 0, _, _ => .error (fault "unexpected end")
  | fuel + 1, depth, cs => do
    let (item, rest) ← value fuel depth cs
    match skip rest with
    | ',' :: rest => do
      let (others, rest) ← items fuel depth rest
      return (item :: others, rest)
    | ']' :: rest => return ([item], rest)
    | _ => throw (fault "expected ',' or ']'")

/-- The members of an object up to its closing brace. -/
def members : Nat → Nat → List Char → Except Fault ((List (Node × Node)) × List Char)
  | 0, _, _ => .error (fault "unexpected end")
  | fuel + 1, depth, cs =>
    match skip cs with
    | '"' :: rest => do
      let (key, rest) ← stringBody (rest.length + 1) (some []) rest
      match skip rest with
      | ':' :: rest => do
        let (item, rest) ← value fuel depth rest
        match skip rest with
        | ',' :: rest => do
          let (others, rest) ← members fuel depth rest
          return ((stringNode key, item) :: others, rest)
        | '\x7d' :: rest => return ([(stringNode key, item)], rest)
        | _ => throw (fault "expected ',' or a closing brace")
      | _ => throw (fault "expected ':'")
    | _ => throw (fault "expected a key")

end

/-- Read a JSON text, which holds one value. -/
def read (text : String) : Except Fault Node := do
  let cs := text.toList
  let (node, rest) ← value (cs.length + 1) depthLimit cs
  if (skip rest).isEmpty then return node
  throw (fault "trailing characters")

/-! ## Printing -/

/-- A character inside a quoted text. -/
def escapeChar (c : Char) : String :=
  if c = '"' then "\\\""
  else if c = '\\' then "\\\\"
  else if c = '\n' then "\\n"
  else if c = '\r' then "\\r"
  else if c = '\t' then "\\t"
  else if c.toNat = 8 then "\\b"
  else if c.toNat = 12 then "\\f"
  else if c.toNat < 0x20 then "\\u" ++ Digits.hexPadded 4 c.toNat
  else String.singleton c

/-- A quoted text. -/
def quote (text : String) : String := "\"" ++ String.join (text.toList.map escapeChar) ++ "\""

/-- The text that a scalar has as a key. -/
def keyText : Value → String
  | .string s => s
  | .bool b => toString b
  | .number n => n.jsonText
  | _ => ""

mutual

/-- The value without any white space. A tag becomes the only key of a mapping. -/
def compact : Value → String
  | .null => "null"
  | .bool b => toString b
  | .number n => n.jsonText
  | .string s => quote s
  | .sequence items => "[" ++ String.intercalate "," (compactItems items) ++ "]"
  | .mapping entries => "\x7b" ++ String.intercalate "," (compactEntries entries) ++ "\x7d"
  | .tagged tag value => "\x7b" ++ quote ("!" ++ tag) ++ ":" ++ compact value ++ "\x7d"

/-- Each item in compact form. -/
def compactItems : List Value → List String
  | [] => []
  | item :: rest => compact item :: compactItems rest

/-- Each entry in compact form. -/
def compactEntries : List (Value × Value) → List String
  | [] => []
  | (key, value) :: rest => (quote (keyText key) ++ ":" ++ compact value) :: compactEntries rest

end

/-- A line break and an indentation of two spaces a level. -/
def lineStart (level : Nat) : String := "\n" ++ String.ofList (List.replicate (2 * level) ' ')

/-- A bracketed list with one member a line. -/
def bracketed (level : Nat) (first last : String) (members : List String) : String :=
  if members.isEmpty then first ++ last
  else
    first ++ lineStart (level + 1) ++ String.intercalate ("," ++ lineStart (level + 1)) members ++
      lineStart level ++ last

mutual

/-- The value with one item a line. -/
def indented (level : Nat) : Value → String
  | .null => "null"
  | .bool b => toString b
  | .number n => n.jsonText
  | .string s => quote s
  | .sequence items => bracketed level "[" "]" (indentedItems (level + 1) items)
  | .mapping entries => bracketed level "\x7b" "\x7d" (indentedEntries (level + 1) entries)
  | .tagged tag value =>
    bracketed level "\x7b" "\x7d" [quote ("!" ++ tag) ++ ": " ++ indented (level + 1) value]

/-- Each item in indented form. -/
def indentedItems (level : Nat) : List Value → List String
  | [] => []
  | item :: rest => indented level item :: indentedItems level rest

/-- Each entry in indented form. -/
def indentedEntries (level : Nat) : List (Value × Value) → List String
  | [] => []
  | (key, value) :: rest =>
    (quote (keyText key) ++ ": " ++ indented level value) :: indentedEntries level rest

end

/-- The value as an indented JSON text. -/
def pretty (value : Value) : String := indented 0 value

end NfvCatalog.Json

/-! ## Opaque values of JSON kind

A value of a template is carried into a descriptor as plain JSON: keys become texts in sorted order,
the last of equal keys counts, numbers without a JSON form are null, and a tag becomes the key of a
mapping of its own.
-/

namespace NfvCatalog

/-- Why a value has no JSON form. -/
inductive OpaqueFault where
  | keyNotText
  | keyNotFinite
deriving DecidableEq, Repr, Inhabited

/-- The wording of an opaque fault. -/
def OpaqueFault.message : OpaqueFault → String
  | .keyNotText => "key must be a string"
  | .keyNotFinite => "float key must be finite (got NaN or +/-inf)"

namespace Value

/-- The text of a key. -/
def opaqueKey : Value → Except OpaqueFault String
  | .string s => .ok s
  | .bool b => .ok (toString b)
  | .number (.float x) =>
    if x.isFinite then .ok (Number.float x).jsonText else .error .keyNotFinite
  | .number n => .ok n.jsonText
  | _ => .error .keyNotText

mutual

/-- The JSON form of a value. -/
def toOpaque : Value → Except OpaqueFault Value
  | .number (.float x) => .ok (if x.isFinite then .number (.float x) else .null)
  | .sequence items => do return .sequence (← toOpaqueItems items)
  | .mapping entries => do return .mapping (← toOpaqueEntries [] entries)
  | .tagged tag value => do return .mapping [(.string ("!" ++ tag), ← toOpaque value)]
  | .null => .ok .null
  | .bool b => .ok (.bool b)
  | .number (.int n) => .ok (.number (.int n))
  | .string s => .ok (.string s)

/-- The JSON form of each item. -/
def toOpaqueItems : List Value → Except OpaqueFault (List Value)
  | [] => .ok []
  | item :: rest => do return (← toOpaque item) :: (← toOpaqueItems rest)

/-- The JSON form of entries, put into a sorted list of those already converted. -/
def toOpaqueEntries (before : Entries) : List (Value × Value) → Except OpaqueFault Entries
  | [] => .ok before
  | (key, value) :: rest => do
    let key ← opaqueKey key
    let value ← toOpaque value
    toOpaqueEntries (before.insertSorted key value) rest

end

end Value

end NfvCatalog
