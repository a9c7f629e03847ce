import NfvCatalog.Number.Digits
import NfvCatalog.Pattern.Expression
import NfvCatalog.Pattern.Weight
import NfvCatalog.Text.Blank
import NfvCatalog.Text.Latest

/-! # The notation of regular expressions

Reading an expression from text. Groups, alternatives, repetitions, classes with their operations,
conditions on places and flags are known; looking around and referring back are not. Where an
expression is verbose, blanks and comments between its parts do not count.
-/

namespace NfvCatalog.Pattern.RegexReader

open NfvCatalog.Text (isBlank)

/-! ## Blank space -/

/-- The text after blanks and comments; `fuel` bounds their number. -/
def skipVoid : Nat → List Char → List Char
  | 0, cs => cs
  | fuel + 1, cs =>
    match cs with
    | '#' :: rest => skipVoid fuel ((rest.dropWhile (· ≠ '\n')).drop 1)
    | c :: rest => if isBlank c then skipVoid fuel rest else cs
    | [] => []

/-- The text after what does not count at its start. -/
def skip (verbose : Bool) (cs : List Char) : List Char :=
  if verbose then skipVoid (cs.length + 1) cs else cs

/-- The first character after blanks and one number sign, or the very first if nothing else
follows. -/
def peekFrom (first : Option Char) (commented : Bool) : List Char → Option Char
  | [] => first
  | c :: rest =>
    if isBlank c then peekFrom first commented rest
    else if c = '#' ∧ ¬ commented then peekFrom first true rest
    else some c

/-- The character that seems to come next. -/
def peek (verbose : Bool) (cs : List Char) : Option Char :=
  if verbose then peekFrom cs.head? false cs else cs.head?

/-! ## Escapes -/

/-- A character with a meaning of its own. -/
def isMeta (c : Char) : Bool := "\\.+*?()|[]\x7b\x7d^$#&-~".toList.contains c

/-- A character that may be escaped to stand for itself. -/
def isEscapable (c : Char) : Bool :=
  isMeta c || (c.toNat < 0x80 && !c.isAlphanum && c ≠ '<' && c ≠ '>')

/-- The control character that an escaped letter stands for. -/
def control? : Char → Option Char
  | 'a' => some (Char.ofNat 7)
  | 'f' => some (Char.ofNat 12)
  | 't' => some '\t'
  | 'n' => some '\n'
  | 'r' => some '\r'
  | 'v' => some (Char.ofNat 11)
  | _ => none

/-- The class that an escaped letter stands for, and whether it is the complement. -/
def letterClass? : Char → Option (LetterClass × Bool)
  | 'd' => some (.digit, false)
  | 's' => some (.blank, false)
  | 'w' => some (.word, false)
  | 'D' => some (.digit, true)
  | 'S' => some (.blank, true)
  | 'W' => some (.word, true)
  | _ => none

/-- The condition that an escaped letter stands for. -/
def anchor? : Char → Option WrittenAnchor
  | 'A' => some .start
  | 'z' => some .stop
  | 'B' => some (.word .noEdge)
  | '<' => some (.word .start)
  | '>' => some (.word .stop)
  | _ => none

/-- What an escape stands for, or a character by itself. -/
inductive Primitive where
  | char (c : WrittenChar)
  | members (tree : ClassTree)
  | anchor (condition : WrittenAnchor)
deriving Repr, Inhabited

/-- The characters up to a closing brace, without what does not count between them, and the text
from the brace on; `fuel` bounds their number. -/
def upToBrace (verbose : Bool) : Nat → List Char → List Char × List Char
  | 0, cs => ([], cs)
  | fuel + 1, cs =>
    match skip verbose cs with
    | [] => ([], [])
    | '\x7d' :: rest => ([], '\x7d' :: rest)
    | c :: rest =>
      let (inside, rest) := upToBrace verbose fuel rest
      (c :: inside, rest)

/-- The character with a code in hexadecimal digits. -/
def coded (digits : List Char) (isByte : Bool) : Except RegexError WrittenChar :=
  match Digits.nat? 16 digits with
  | some code => if code.isValidChar then .ok ⟨Char.ofNat code, isByte⟩ else .error .badEscape
  | none => .error .badEscape

/-- A fixed count of hexadecimal digits, with the text after them. -/
def fixedDigits (verbose : Bool) : Nat → List Char → Except RegexError (List Char × List Char)
  | 0, cs => .ok ([], cs)
  | count + 1, cs =>
    match skip verbose cs with
    | [] => .error .openEscape
    | c :: rest => do
      if (Digits.nat? 16 [c]).isNone then throw .badEscape
      let (digits, rest) ← fixedDigits verbose count rest
      return (c :: digits, rest)

/-- The character of a code with a fixed count of digits, or with any count in braces. Only two
digits without braces stand for a byte. -/
def codeEscape (verbose : Bool) (count : Nat) (cs : List Char) :
    Except RegexError (Primitive × List Char) := do
  match skip verbose cs with
  | '\x7b' :: rest =>
    let (digits, rest) := upToBrace verbose rest.length rest
    if rest.isEmpty then throw .openEscape
    return (.char (← coded digits false), skip verbose (rest.drop 1))
  | cs =>
    let (digits, rest) ← fixedDigits verbose count cs
    return (.char (← coded digits (count = 2)), skip verbose rest)

/-- Cut a text at the first place of a mark. -/
def cutAt? (mark : List Char) : List Char → Option (List Char × List Char)
  | [] => none
  | c :: rest =>
    if mark.isPrefixOf (c :: rest) then some ([], (c :: rest).drop mark.length)
    else (cutAt? mark rest).map fun parts => (c :: parts.1, parts.2)

/-- The named class of a text in braces, and whether it is the complement. -/
def namedClass (text : List Char) : PropertyName × Bool :=
  match cutAt? ['!', '='] text, cutAt? [':'] text, cutAt? ['='] text with
  | some (property, wanted), _, _ => (.value property wanted, true)
  | none, some (property, wanted), _ => (.value property wanted, false)
  | none, none, some (property, wanted) => (.value property wanted, false)
  | none, none, none => (.plain text, false)

/-- A named class, after its letter. -/
def property (verbose negated : Bool) (cs : List Char) :
    Except RegexError (Primitive × List Char) := do
  match skip verbose cs with
  | [] => throw .openEscape
  | '\x7b' :: rest =>
    let (text, rest) := upToBrace verbose rest.length rest
    if rest.isEmpty then throw .openEscape
    let (name, differs) := namedClass text
    return (.members (.property name (negated != differs)), rest.drop 1)
  | '\\' :: _ => throw .unknownClass
  | c :: rest => return (.members (.property (.plain [c]) negated), rest)

/-- A letter or a hyphen, which names of word boundaries are made of. -/
def isBoundaryChar (c : Char) : Bool := c.isAlpha || c = '-'

/-- The letters at the start of a text, without what does not count between them, and the text after
them; `fuel` bounds their number. -/
def boundaryName (verbose : Bool) : Nat → List Char → List Char × List Char
  | 0, cs => ([], cs)
  | fuel + 1, cs =>
    match cs with
    | c :: rest =>
      if isBoundaryChar c then
        let (name, rest) := boundaryName verbose fuel (skip verbose rest)
        (c :: name, rest)
      else ([], cs)
    | [] => ([], [])

/-- A word boundary, after its letter. A brace after it may hold a name, or the count of a
repetition. -/
def boundary (verbose : Bool) (cs : List Char) : Except RegexError (WordEdge × List Char) := do
  match cs with
  | '\x7b' :: tail =>
    let inside := skip verbose tail
    match inside.head? with
    | none => throw .openCount
    | some c =>
      if !isBoundaryChar c then return (.edge, cs)
      let (name, rest) := boundaryName verbose inside.length inside
      match String.ofList name, rest with
      | "start", '\x7d' :: rest => return (.start, rest)
      | "end", '\x7d' :: rest => return (.stop, rest)
      | "start-half", '\x7d' :: rest => return (.startHalf, rest)
      | "end-half", '\x7d' :: rest => return (.stopHalf, rest)
      | _, _ => throw .badEscape
  | _ => return (.edge, cs)

/-- What an escape stands for, after its backslash. -/
def escape (verbose : Bool) (cs : List Char) : Except RegexError (Primitive × List Char) :=
  match cs with
  | [] => .error .openEscape
  | 'x' :: rest => codeEscape verbose 2 rest
  | 'u' :: rest => codeEscape verbose 4 rest
  | 'U' :: rest => codeEscape verbose 8 rest
  | 'p' :: rest => property verbose false rest
  | 'P' :: rest => property verbose true rest
  | 'b' :: rest => (boundary verbose rest).map fun read => (.anchor (.word read.1), read.2)
  | c :: rest =>
    match letterClass? c, anchor? c, control? c with
    | some (kind, negated), _, _ => .ok (.members (.letter kind negated), rest)
    | none, some condition, _ => .ok (.anchor condition, rest)
    | none, none, some c => .ok (.char { char := c }, rest)
    | none, none, none =>
      if isEscapable c then .ok (.char { char := c }, rest) else .error .badEscape

/-! ## Classes -/

/-- The class with a name between colons. -/
def colonClass? (name : String) : Option ColonClass :=
  match name with
  | "alnum" => some .alnum
  | "alpha" => some .alpha
  | "ascii" => some .ascii
  | "blank" => some .blank
  | "cntrl" => some .cntrl
  | "digit" => some .digit
  | "graph" => some .graph
  | "lower" => some .lower
  | "print" => some .print
  | "punct" => some .punct
  | "space" => some .space
  | "upper" => some .upper
  | "word" => some .word
  | "xdigit" => some .xdigit
  | _ => none

/-- A class named between colons, after its bracket and colon. -/
def colon? (cs : List Char) : Option (ClassTree × List Char) :=
  let (negated, body) := match cs with
    | '^' :: rest => (true, rest)
    | _ => (false, cs)
  let name := body.takeWhile (· ≠ ':')
  match body.drop name.length, colonClass? (String.ofList name) with
  | ':' :: ']' :: rest, some kind => some (.colon kind negated, rest)
  | _, _ => none

/-- An item of a class: a character, or what an escape stands for. -/
def classItem (verbose : Bool) (cs : List Char) : Except RegexError (Primitive × List Char) :=
  match cs with
  | [] => .error .openClass
  | '\\' :: rest => escape verbose rest
  | c :: rest => .ok (.char { char := c }, rest)

/-- The tree of an item; conditions on places are none. -/
def itemTree : Primitive → Except RegexError ClassTree
  | .char c => .ok (.char c)
  | .members tree => .ok tree
  | .anchor _ => .error .badEscape

/-- Whether a hyphen that starts a text makes a range of the items at its sides. A hyphen before the
end of the class, or before another hyphen, does not. -/
def isRangeMark (verbose : Bool) : List Char → Bool
  | '-' :: rest => peek verbose rest ≠ some ']' && peek verbose rest ≠ some '-'
  | _ => false

/-- An item of a class, or a range of two. -/
def classRange (verbose : Bool) (cs : List Char) : Except RegexError (ClassTree × List Char) := do
  let (low, rest) ← classItem verbose cs
  let rest := skip verbose rest
  if rest.isEmpty then throw .openClass
  if !isRangeMark verbose rest then return (← itemTree low, rest)
  let (high, rest) ← classItem verbose (skip verbose (rest.drop 1))
  match low, high with
  | .char low, .char high =>
    if high.char < low.char then throw .badRange
    return (.range low high, rest)
  | _, _ => throw .badRange

/-- The operation between two parts of a class, and the text after it. -/
def classOperation? : List Char → Option (ClassOperation × List Char)
  | '&' :: '&' :: rest => some (.inter, rest)
  | '-' :: '-' :: rest => some (.diff, rest)
  | '~' :: '~' :: rest => some (.symmDiff, rest)
  | _ => none

/-- The part of a class before an operation, with that operation. -/
abbrev LeftPart := Option (ClassTree × ClassOperation)

/-- Put items behind the part before an operation. -/
def joinParts (left : LeftPart) (items : List ClassTree) : ClassTree :=
  match left with
  | some (before, kind) => .operation kind before (.ofItems items)
  | none => .ofItems items

/-- The start of a class after its bracket: whether it is the complement, the hyphens or the closing
bracket that stand for themselves, and the text after them. -/
def classStart (verbose : Bool) (cs : List Char) : Bool × List ClassTree × List Char :=
  let (negated, cs) := match skip verbose cs with
    | '^' :: rest => (true, skip verbose rest)
    | rest => (false, rest)
  let rec hyphens (fuel : Nat) (cs : List Char) : List ClassTree × List Char :=
    match fuel, cs with
    | fuel + 1, '-' :: rest =>
      let (more, rest) := hyphens fuel (skip verbose rest)
      (.char { char := '-' } :: more, rest)
    | _, _ => ([], cs)
  match hyphens cs.length cs with
  | ([], ']' :: rest) => (negated, [.char { char := ']' }], skip verbose rest)
  | (items, rest) => (negated, items, rest)

/-- The items of a class up to its closing bracket, behind those read so far; `fuel` bounds the
items read. -/
def classItems (verbose : Bool) : Nat → LeftPart → List ClassTree → List Char →
    Except RegexError (ClassTree × List Char)
  | 0, _, _, _ => .error .openClass
  | fuel + 1, left, done, cs =>
    let cs := skip verbose cs
    match classOperation? cs, cs with
    | some (kind, rest), _ => classItems verbose fuel (some (joinParts left done, kind)) [] rest
    | none, [] => .error .openClass
    | none, ']' :: rest => .ok (joinParts left done, rest)
    | none, '[' :: rest =>
      let named := match rest with
        | ':' :: body => colon? body
        | _ => none
      match named with
      | some (tree, rest) => classItems verbose fuel left (done ++ [tree]) rest
      | none => do
        let (negated, start, rest) := classStart verbose rest
        let (inner, rest) ← classItems verbose fuel none start rest
        classItems verbose fuel left (done ++ [.bracketed inner negated]) rest
    | none, _ => do
      let (tree, rest) ← classRange verbose cs
      classItems verbose fuel left (done ++ [tree]) rest

/-- A class after its opening bracket. -/
def bracketClass (verbose : Bool) (cs : List Char) : Except RegexError (ClassTree × List Char) := do
  let (negated, start, rest) := classStart verbose cs
  let (inner, rest) ← classItems verbose (cs.length + 1) none start rest
  return (.bracketed inner negated, rest)

/-! ## Repetitions -/

/-- Decimal digits, without what does not count between them, and the text after them; `fuel` bounds
their number. -/
def decimalDigits (verbose : Bool) : Nat → List Char → List Char × List Char
  | 0, cs => ([], cs)
  | fuel + 1, cs =>
    match cs with
    | c :: rest =>
      if c.isDigit then
        let (digits, rest) := decimalDigits verbose fuel (skip verbose rest)
        (c :: digits, rest)
      else ([], cs)
    | [] => ([], [])

/-- A decimal count, with the blanks around it. -/
def count (verbose : Bool) (cs : List Char) : Except RegexError (Nat × List Char) :=
  let (digits, rest) := decimalDigits verbose cs.length (cs.dropWhile isBlank)
  match Digits.nat? 10 digits with
  | some n =>
    if UInt32.size ≤ n then .error .badCount
    else
      let after := rest.dropWhile isBlank
      .ok (n, if after.length < rest.length then skip verbose after else after)
  | none => .error .badCount

/-- The bounds of a counted repetition, after its brace. -/
def bounds (verbose : Bool) (cs : List Char) :
    Except RegexError ((Nat × Option Nat) × List Char) := do
  let (least, rest) ← count verbose (skip verbose cs)
  match rest with
  | '\x7d' :: rest => return ((least, some least), rest)
  | ',' :: rest =>
    match skip verbose rest with
    | '\x7d' :: rest => return ((least, none), rest)
    | rest =>
      let (most, rest) ← count verbose rest
      if most < least then throw .badCount
      match rest with
      | '\x7d' :: rest => return ((least, some most), rest)
      | _ => throw .openCount
  | _ => throw .openCount

/-- A repetition mark: its bounds, and whether it takes as many times as it can. -/
structure Repetition where
  least : Nat
  most : Option Nat
  greedy : Bool
deriving DecidableEq, Repr, Inhabited

/-- A repetition mark at the start of a text, and the text after it. A question mark after it makes
it take as few times as it can. -/
def repetition? (verbose : Bool) (cs : List Char) :
    Option (Except RegexError (Repetition × List Char)) :=
  let mark (least : Nat) (most : Option Nat) (cs : List Char) : Repetition × List Char :=
    match cs with
    | '?' :: rest => (⟨least, most, false⟩, rest)
    | _ => (⟨least, most, true⟩, cs)
  match cs with
  | '*' :: rest => some (.ok (mark 0 none rest))
  | '+' :: rest => some (.ok (mark 1 none rest))
  | '?' :: rest => some (.ok (mark 0 (some 1) rest))
  | '\x7b' :: rest =>
    some ((bounds verbose rest).map fun read => mark read.1.1 read.1.2 (skip verbose read.2))
  | _ => none

/-- A repetition of the last of some parts, which come in reverse. -/
def repeatLast (mark : Repetition) : List Expression → Except RegexError (List Expression)
  | [] | .empty :: _ | .flags _ :: _ => .error .nothingToRepeat
  | last :: before => .ok (.repeated last mark.least mark.most mark.greedy :: before)

/-! ## Groups and flags -/

/-- The flag of a letter. -/
def flag? : Char → Option Flag
  | 'i' => some .anyCase
  | 'm' => some .multiLine
  | 's' => some .dotAll
  | 'U' => some .lazily
  | 'u' => some .unicode
  | 'R' => some .anyLineEnd
  | 'x' => some .verbose
  | _ => none

/-- The flags that letters set, and clear after a hyphen. No flag comes twice, and the hyphen stands
once and not at the end. -/
def flagChanges (on : Bool) (done : List (Flag × Bool)) : List Char →
    Except RegexError (List (Flag × Bool))
  | [] => .ok done
  | '-' :: rest => if !on || rest.isEmpty then .error .badFlag else flagChanges false done rest
  | c :: rest =>
    match flag? c with
    | some flag =>
      if done.any (·.1 = flag) then .error .badFlag
      else flagChanges on (done ++ [(flag, on)]) rest
    | none => .error .badFlag

/-- A character that a group's name may start with. -/
def isNameStart (c : Char) : Bool := c = '_' || Text.Latest.alphabetic.has c

/-- A character of a group's name. -/
def isNameChar (c : Char) : Bool :=
  isNameStart c || c = '.' || c = '[' || c = ']' || Text.Latest.number.has c

/-- The name of a group and the text after it. -/
def groupName (names : List String) (cs : List Char) : Except RegexError (String × List Char) :=
  let name := cs.takeWhile (· ≠ '>')
  let text := String.ofList name
  if name.head?.any isNameStart && name.all isNameChar && name.length < cs.length &&
    !names.contains text
  then .ok (text, cs.drop (name.length + 1))
  else .error .badGroupName

/-- What an opening parenthesis starts. -/
inductive Opening where
  | group (captures : Bool) (changes : List (Flag × Bool)) (names : List String) (rest : List Char)
  | flags (changes : List (Flag × Bool)) (rest : List Char)

/-- What an opening parenthesis starts, from the text after it. -/
def opening (names : List String) (cs : List Char) : Except RegexError Opening := do
  let named (cs : List Char) : Except RegexError Opening := do
    let (name, rest) ← groupName names cs
    return .group true [] (name :: names) rest
  match cs with
  | '?' :: 'P' :: '<' :: rest => named rest
  | '?' :: '<' :: '=' :: _ | '?' :: '<' :: '!' :: _ | '?' :: '=' :: _ | '?' :: '!' :: _ =>
    throw .lookAround
  | '?' :: '<' :: rest => named rest
  | '?' :: rest =>
    let letters := rest.takeWhile fun c => c ≠ ':' && c ≠ ')'
    let changes ← flagChanges true [] letters
    match rest.drop letters.length with
    | ':' :: rest => return .group false changes names rest
    | ')' :: rest =>
      if letters.isEmpty then throw .nothingToRepeat
      return .flags changes rest
    | _ => throw .openGroup
  | _ => return .group true [] names cs

/-- Whether an expression is verbose after some flags are set or cleared. -/
def verboseAfter (verbose : Bool) (changes : List (Flag × Bool)) : Bool :=
  ((changes.find? (·.1 = .verbose)).map (·.2)).getD verbose

/-! ## Expressions -/

/-- A single character, a class, or a condition on a place. -/
def primitive (verbose : Bool) (cs : List Char) : Except RegexError (Expression × List Char) :=
  match cs with
  | [] => .error .openEscape
  | '.' :: rest => .ok (.dot, rest)
  | '^' :: rest => .ok (.anchor .lineStart, rest)
  | '$' :: rest => .ok (.anchor .lineStop, rest)
  | '[' :: rest => (bracketClass verbose rest).map fun read => (.members read.1, read.2)
  | '\\' :: rest => do
    let (read, rest) ← escape verbose rest
    return (match read with
      | .char c => (.char c, rest)
      | .members tree => (.members tree, rest)
      | .anchor condition => (.anchor condition, rest))
  | c :: rest => .ok (.char { char := c }, rest)

/-- What has been read of a group: whether it is verbose by now, the branches before the current
one, and the parts of that one, both in reverse. -/
structure GroupSoFar where
  verbose : Bool
  branches : List Expression := []
  parts : List Expression := []

/-- The branch under way. -/
def GroupSoFar.branch (soFar : GroupSoFar) : Expression := .ofParts soFar.parts.reverse

/-- The whole body of a group. -/
def GroupSoFar.body (soFar : GroupSoFar) : Expression :=
  .ofBranches (soFar.branch :: soFar.branches).reverse

/-- Put one more part behind those read. -/
def GroupSoFar.push (soFar : GroupSoFar) (part : Expression) : GroupSoFar :=
  { soFar with parts := part :: soFar.parts }

/-- The body of a group up to its closing parenthesis or the end, the names of groups by then, and
the text that is left. `fuel` bounds the parts read. -/
def groupBody : Nat → List String → GroupSoFar → List Char →
    Except RegexError (Expression × List String × List Char)
  | 0, _, _, _ => .error .tooLarge
  | fuel + 1, names, soFar, cs =>
    let cs := skip soFar.verbose cs
    match repetition? soFar.verbose cs, cs with
    | some (.error error), _ => .error error
    | some (.ok (mark, rest)), _ =>
      match repeatLast mark soFar.parts with
      | .ok parts => groupBody fuel names { soFar with parts } rest
      | .error error => .error error
    | none, [] => .ok (soFar.body, names, [])
    | none, ')' :: _ => .ok (soFar.body, names, cs)
    | none, '|' :: rest =>
      let soFar := { soFar with branches := soFar.branch :: soFar.branches, parts := [] }
      groupBody fuel names soFar rest
    | none, '(' :: rest =>
      match opening names (skip soFar.verbose rest) with
      | .error error => .error error
      | .ok (.flags changes rest) =>
        let verbose := verboseAfter soFar.verbose changes
        groupBody fuel names { soFar.push (.flags changes) with verbose } rest
      | .ok (.group captures changes names rest) =>
        let inner : GroupSoFar := { verbose := verboseAfter soFar.verbose changes }
        match groupBody fuel names inner rest with
        | .error error => .error error
        | .ok (body, names, ')' :: rest) =>
          groupBody fuel names (soFar.push (.group captures changes body)) rest
        | .ok _ => .error .openGroup
    | none, _ =>
      match primitive soFar.verbose cs with
      | .ok (part, rest) => groupBody fuel names (soFar.push part) rest
      | .error error => .error error

end RegexReader

/-- Read an expression as written. -/
def Expression.parse (text : String) : Except RegexError Expression := do
  let cs := text.toList
  let (expression, _, rest) ← RegexReader.groupBody (cs.length + 1) [] { verbose := false } cs
  if !rest.isEmpty then throw .unopenedGroup
  if heightLimit < expression.height then throw .tooDeep
  return expression

end Pattern

/-- Read an expression. -/
def Regex.parse (text : String) : Except RegexError Regex := do
  let expression ← Pattern.Expression.parse text
  let (meaning, _) ← expression.meaning { }
  if meaning.isTooHeavy then throw .tooLarge
  return meaning

end NfvCatalog
