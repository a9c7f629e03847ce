import NfvCatalog.Shell.Utility.Matcher
import NfvCatalog.Shell.Utility.Options

/-! # Programs that search

Lines in which an expression is found, words that are joined by operators, and files that are found
in directories.
-/

namespace NfvCatalog.Shell.Utility

/-! ## Lines that hold an expression -/

/-- What is asked of a search in lines. -/
structure LineSearch where
  expressions : List Expression
  anyCase : Bool := false
  isWord : Bool := false
  isWhole : Bool := false
  inverts : Bool := false
deriving Inhabited

namespace LineSearch

/-- Whether a match stands as a word. -/
def standsAsWord (subject : Expression.Subject) (start stop : Nat) : Bool :=
  let isPart (place : Nat) : Bool := (subject.text[place]?).any Expression.isWordChar
  !(start ≠ 0 && isPart (start - 1)) && !isPart stop

/-- The match of an expression at or behind a place that stands as it should. `fuel` bounds the
places. -/
def matchFrom (search : LineSearch) (subject : Expression.Subject) (expression : Expression) :
    Nat → Nat → Option (Nat × Nat)
  | 0, _ => none
  | fuel + 1, start =>
    match expression.find? subject start with
    | none => none
    | some (place, longest) =>
      let stops := ((Expression.ends subject expression ⟨place, []⟩).map Expression.Found.stop)
      let fits (stop : Nat) : Bool :=
        (!search.isWhole || (place = 0 && stop = subject.text.size)) &&
          (!search.isWord || standsAsWord subject place stop)
      match (stops.filter fits).foldl (fun best stop => some (max stop (best.getD 0))) none with
      | some stop => some (place, stop)
      | none =>
        if search.isWhole && place ≠ 0 then none
        else matchFrom search subject expression fuel (max (place + 1) (min longest.stop place))

/-- The first of the longest matches in a line from a place on. -/
def first? (search : LineSearch) (line : List Char) (start : Nat) : Option (Nat × Nat) :=
  let subject : Expression.Subject := { text := line.toArray, anyCase := search.anyCase }
  let found := search.expressions.filterMap fun expression =>
    matchFrom search subject expression (line.length + 2) start
  found.foldl (fun best next =>
    match best with
    | none => some next
    | some old =>
      if next.1 < old.1 || (next.1 = old.1 && old.2 < next.2) then some next else best) none

/-- All matches in a line that are not empty, from a place on. `fuel` bounds them. -/
def allFrom (search : LineSearch) (line : List Char) : Nat → Nat → List (Nat × Nat)
  | 0, _ => []
  | fuel + 1, start =>
    match first? search line start with
    | none => []
    | some (place, stop) =>
      if place = stop then
        if line.length ≤ stop then [] else allFrom search line fuel (stop + 1)
      else (place, stop) :: allFrom search line fuel stop

/-- Whether a line is one of those that are sought. -/
def selects (search : LineSearch) (line : List Char) : Bool :=
  (search.first? line 0).isSome != search.inverts

end LineSearch

/-- The letters and names of the options of `grep`. -/
def grepUsage : Usage :=
  let extra : List OptionRule := [⟨'!', "color", .maybe⟩, ⟨'!', "colour", .maybe⟩,
    ⟨'"', "include", .always⟩, ⟨'%', "exclude", .always⟩, ⟨'&', "exclude-dir", .always⟩,
    ⟨'+', "no-messages", .never⟩]
  ⟨extra ++ Usage.ofLetters "A:B:C:EFGHLPRTUVabcd:e:f:hilm:noqrsvwxyz" [('E', "extended-regexp"),
    ('F', "fixed-strings"), ('G', "basic-regexp"), ('P', "perl-regexp"), ('e', "regexp"),
    ('f', "file"), ('i', "ignore-case"), ('w', "word-regexp"), ('x', "line-regexp"),
    ('v', "invert-match"), ('m', "max-count"), ('b', "byte-offset"), ('n', "line-number"),
    ('H', "with-filename"), ('h', "no-filename"), ('o', "only-matching"), ('q', "quiet"),
    ('q', "silent"), ('a', "text"), ('r', "recursive"), ('R', "dereference-recursive"),
    ('L', "files-without-match"), ('l', "files-with-matches"), ('c', "count"),
    ('A', "after-context"), ('B', "before-context"), ('C', "context"), ('z', "null-data")], true, 2⟩

/-- The text that says how `grep` is called. -/
def grepHelp : String :=
  "Usage: grep [OPTION]... PATTERNS [FILE]...\nTry 'grep --help' for more information."

/-- What is printed of a text: lines with their numbers, and whether each is one of those that are
sought. Lines that are not neighbours are separated. -/
def withContext (before after : Nat) (lines : List (List Char × Bool)) :
    List (Nat × List Char × Bool) :=
  let numbered := lines.zipIdx 1
  let hits := numbered.filterMap fun entry => if entry.1.2 then some entry.2 else none
  numbered.filterMap fun entry =>
    let isNear := entry.1.2 || hits.any fun hit =>
      (hit ≤ entry.2 && entry.2 ≤ hit + after) || (entry.2 ≤ hit && hit ≤ entry.2 + before)
    if isNear then some (entry.2, entry.1.1, entry.1.2) else none

/-- The lines up to so many that are sought. -/
def upToCount : Option Nat → List (List Char × Bool) → List (List Char × Bool)
  | some 0, _ => []
  | none, lines => lines
  | _, [] => []
  | some (count + 1), line :: rest =>
    line :: upToCount (some (if line.2 then count else count + 1)) rest

/-- Print what is found in a text under a name. -/
def grepText (given : Given) (search : LineSearch) (most : Option Nat) (before after : Nat)
    (name : Option String) (content : List Char) : String × Bool :=
  let all := (linesOf content).map fun line => (line, search.selects line)
  let trailing := if after = 0 then [] else
    let used := (upToCount most all).length
    ((all.drop used).take after).map fun line => (line.1, false)
  let lines := upToCount most all ++ (if most.isSome then trailing else [])
  let isFound := lines.any Prod.snd
  let lead (mark : String) : String := match name with
    | some name => name ++ mark
    | none => ""
  let shownName := name.getD "(standard input)"
  if given.has 'q' then ("", isFound)
  else if given.has 'l' then (if isFound then shownName ++ "\n" else "", isFound)
  else if given.has 'L' then (if isFound then "" else shownName ++ "\n", !isFound)
  else if given.has 'c' then
    (lead ":" ++ toString (lines.filter Prod.snd).length ++ "\n", isFound)
  else if content.contains '\x00' && !given.has 'a' && isFound then
    ("grep: " ++ shownName ++ ": binary file matches\n", true)
  else
    let offsets := (all.foldl (fun (done : List Nat × Nat) line =>
      (done.1 ++ [done.2], done.2 + line.1.length + 1)) ([], 0)).1
    let head (number : Nat) (start : Nat) (mark : String) : String :=
      lead mark ++ (if given.has 'n' then toString number ++ mark else "") ++
        (if given.has 'b' then toString ((offsets[number - 1]?).getD 0 + start) ++ mark else "")
    if given.has 'o' then
      if search.inverts then ("", isFound)
      else
        let text := lines.zipIdx 1 |>.flatMap fun entry =>
          if !entry.1.2 then []
          else (search.allFrom entry.1.1 (entry.1.1.length + 2) 0).map fun place =>
            head entry.2 place.1 ":" ++
              String.ofList ((entry.1.1.take place.2).drop place.1) ++ "\n"
        (String.join text, isFound)
    else
      let shown := withContext before after lines
      let isSplit := before ≠ 0 || after ≠ 0
      let (text, _) := shown.foldl (fun (done : List String × Option Nat) line =>
        let gap := isSplit && done.2.any (· + 1 < line.1)
        let mark := if line.2.2 then ":" else "-"
        let text := (if gap then "--\n" else "") ++ head line.1 0 mark ++
          String.ofList line.2.1 ++ "\n"
        (text :: done.1, some line.1)) ([], none)
      (String.join text.reverse, isFound)

/-- The files below a directory, in the order of their names. `fuel` bounds the depth. -/
def filesBelow (m : Machine) : Nat → String → List String
  | 0, _ => []
  | fuel + 1, path =>
    match m.entryAt path with
    | .ok .directory =>
      (m.namesIn path).flatMap fun name => filesBelow m fuel (path ++ "/" ++ name)
    | _ => [path]

/-- Print lines in which an expression is found. -/
def grep (m : Machine) (words : List String) : Machine :=
  let words := words.flatMap fun word =>
    match word.toList with
    | '-' :: c :: rest =>
      if (c :: rest).all Char.isDigit then ["-C", String.ofList (c :: rest)] else [word]
    | _ => [word]
  match grepUsage.read (words.length + 1) words with
  | .error text => (m.complain (m.name ++ ": " ++ text ++ "\n" ++ grepHelp)).finish 2
  | .ok given =>
    let (patterns, files) : List String × List String :=
      if given.has 'e' || given.has 'f' then
        let ofFile (path : String) : List String :=
          match m.bytesOf path with
          | .ok bytes => (linesOf (Octets.ofBytes bytes).toList).map String.ofList
          | .error _ => []
        ((given.values 'e').flatMap (Text.split '\n') ++ (given.values 'f').flatMap ofFile,
          given.operands)
      else match given.operands with
        | pattern :: files => (Text.split '\n' pattern, files)
        | [] => ([], [])
    let missing? := (given.values 'f').find? fun path => !(m.bytesOf path).toOption.isSome
    let number (letter : Char) : Option Nat := (given.value? letter).bind Spelled.count?
    let kind := given.last? ['E', 'F', 'G', 'P']
    let isExtended := kind = some 'E' || kind = some 'P'
    let expressions := patterns.map fun text =>
      if kind = some 'F' then .ok (Expression.ofText text.toList)
      else Expression.ofSpelled isExtended text.toList
    let fault? := expressions.findSome? fun expression => match expression with
      | .error reason => some reason
      | .ok _ => none
    if patterns.isEmpty && !given.has 'e' && !given.has 'f' then (m.complain grepHelp).finish 2
    else match missing?, fault?,
        (given.value? 'm').filter fun text => (Spelled.count? text).isNone with
      | some path, _, _ => fault m 2 (path ++ ": " ++ FileError.notFound.reason)
      | none, some reason, _ => fault m 2 reason.message
      | none, none, some _ => fault m 2 "invalid max count"
      | none, none, none =>
        let search : LineSearch := {
          expressions := expressions.filterMap Except.toOption
          anyCase := given.has 'i' || given.has 'y', isWord := given.has 'w'
          isWhole := given.has 'x', inverts := given.has 'v' }
        let context := (number 'C').getD 0
        let isDeep := given.has 'r' || given.has 'R'
        let roots := if files.isEmpty then (if isDeep then ["."] else ["-"]) else files
        let paths : List String := if isDeep then roots.flatMap fun path =>
            (filesBelow m 64 path).map fun found =>
              if files.isEmpty then String.ofList (found.toList.drop 2) else found
          else roots
        let paths := match given.value? '"' with
          | some pattern => paths.filter fun (path : String) =>
              (Wildcard.ofGlyphs (Glyph.ofText false pattern)).fits
                (path.toList.reverse.takeWhile (· ≠ '/')).reverse
          | none => paths
        let isNamed := !given.has 'h' && (given.has 'H' || isDeep || 1 < paths.length)
        let step (state : Machine × Bool × Bool) (path : String) : Machine × Bool × Bool :=
          let (m, isFound, isBad) := state
          if given.has 'q' && isFound then state
          else match contentOf m path with
            | (m, .error error) =>
              (if given.has 's' then m
                else m.complain (m.name ++ ": " ++ path ++ ": " ++ error.reason),
                isFound, true)
            | (m, .ok content) =>
              let shown := if path = "-" then "(standard input)" else path
              let name := if isNamed || given.has 'l' || given.has 'L' then some shown else none
              let (text, found) := grepText given search (number 'm') ((number 'B').getD context)
                ((number 'A').getD context) name content
              (m.printText text, isFound || found, isBad)
        let (m, isFound, isBad) := paths.foldl step (m, false, false)
        m.finish (if isBad && !(given.has 'q' && isFound) then 2 else if isFound then 0 else 1)

/-! ## Operators between words -/

namespace Joined

/-- Why words have no value. -/
inductive Fault where
  | missingOperand
  | missingArgument (word : String)
  | unexpected (word : String)
  | notNumber
  | divisionByZero
  | missingClosing (word : String)
  | expression (reason : ExpressionFault)
deriving DecidableEq, Repr, Inhabited

/-- The wording of a fault. -/
def Fault.message : Fault → String
  | .missingOperand => "missing operand"
  | .missingArgument word => "syntax error: missing argument after " ++ inQuotes word
  | .unexpected word => "syntax error: unexpected argument " ++ inQuotes word
  | .notNumber => "non-integer argument"
  | .divisionByZero => "division by zero"
  | .missingClosing word => "syntax error: expecting ')' after " ++ inQuotes word
  | .expression reason => reason.message

/-- The number that a word spells. -/
def number? (word : String) : Option Int :=
  match word.toList with
  | '-' :: digits => (Digits.nat? 10 digits).map fun n => -(n : Int)
  | digits => (Digits.nat? 10 digits).map Int.ofNat

/-- Whether a word counts as nothing. -/
def isNull (word : String) : Bool :=
  word.isEmpty || (number? word = some 0 && !word.isEmpty)

/-- The part of a word that an expression finds at its start: what its first group holds, or how
long it is. -/
def matched (word pattern : String) : Except Fault String :=
  match Expression.ofSpelled false pattern.toList with
  | .error reason => .error (.expression reason)
  | .ok expression =>
    let hasGroup := Text.contains pattern "\\("
    match expression.longestAt { text := word.toList.toArray } 0 with
    | some found =>
      if hasGroup then
        match found.groups.find? (·.1 = 1) with
        | some (_, start, stop) => .ok (String.ofList ((word.toList.take stop).drop start))
        | none => .ok ""
      else .ok (toString found.stop)
    | none => .ok (if hasGroup then "" else "0")

/-- The value of an operator between two words. -/
def apply (sign left right : String) : Except Fault String :=
  let truth (b : Bool) : Except Fault String := .ok (if b then "1" else "0")
  let numbers (f : Int → Int → Except Fault Int) : Except Fault String :=
    match number? left, number? right with
    | some a, some b => (f a b).map toString
    | _, _ => .error .notNumber
  let order : Ordering := match number? left, number? right with
    | some a, some b => compare a b
    | _, _ => if left = right then .eq else if Text.le left right then .lt else .gt
  match sign with
  | "|" => .ok (if isNull left then (if isNull right then "0" else right) else left)
  | "&" => .ok (if isNull left || isNull right then "0" else left)
  | "<" => truth (order = .lt)
  | "<=" => truth (order ≠ .gt)
  | "=" | "==" => truth (order = .eq)
  | "!=" => truth (order ≠ .eq)
  | ">=" => truth (order ≠ .lt)
  | ">" => truth (order = .gt)
  | "+" => numbers fun a b => .ok (a + b)
  | "-" => numbers fun a b => .ok (a - b)
  | "*" => numbers fun a b => .ok (a * b)
  | "/" => numbers fun a b => if b = 0 then .error .divisionByZero else .ok (Int.tdiv a b)
  | "%" => numbers fun a b => if b = 0 then .error .divisionByZero else .ok (Int.tmod a b)
  | _ => matched left right

/-- The operators by rank, the loosest first. -/
def ranks : List (List String) :=
  [["|"], ["&"], ["<", "<=", "=", "==", "!=", ">=", ">"], ["+", "-"], ["*", "/", "%"], [":"]]

mutual

/-- The value of words under operators no looser than the given ranks, and the words behind it.
`last` is the word before them. -/
def ranked : Nat → List (List String) → String → List String →
    Except Fault (String × String × List String)
  | 0, _, last, _ => .error (.missingArgument last)
  | fuel + 1, [], last, words => primary fuel last words
  | fuel + 1, rank :: tighter, last, words => do
    let (value, last, rest) ← ranked fuel tighter last words
    operands fuel rank tighter value last rest

/-- The operands that follow one, from the left. -/
def operands : Nat → List String → List (List String) → String → String → List String →
    Except Fault (String × String × List String)
  | 0, _, _, _, last, _ => .error (.missingArgument last)
  | fuel + 1, rank, tighter, value, last, words =>
    match words with
    | sign :: rest =>
      if rank.contains sign then do
        let (right, last, rest) ← ranked fuel tighter sign rest
        operands fuel rank tighter (← apply sign value right) last rest
      else .ok (value, last, words)
    | [] => .ok (value, last, [])

/-- A word, words in parentheses, or a function of words. -/
def primary : Nat → String → List String → Except Fault (String × String × List String)
  | 0, last, _ => .error (.missingArgument last)
  | fuel + 1, last, words =>
    match words with
    | [] => .error (.missingArgument last)
    | "(" :: rest => do
      let (value, last, rest) ← ranked fuel ranks "(" rest
      match rest with
      | ")" :: rest => return (value, ")", rest)
      | found :: _ => throw (.unexpected found)
      | [] => throw (.missingClosing last)
    | ")" :: _ => .error (.unexpected ")")
    | "+" :: word :: rest => .ok (word, word, rest)
    | "length" :: rest => do
      let (text, last, rest) ← primary fuel "length" rest
      return (toString text.length, last, rest)
    | "match" :: rest => do
      let (text, last, rest) ← primary fuel "match" rest
      let (pattern, last, rest) ← primary fuel last rest
      return (← matched text pattern, last, rest)
    | "index" :: rest => do
      let (text, last, rest) ← primary fuel "index" rest
      let (chars, last, rest) ← primary fuel last rest
      let place := (text.toList.takeWhile (!chars.toList.contains ·)).length
      return (toString (if place < text.length then place + 1 else 0), last, rest)
    | "substr" :: rest => do
      let (text, last, rest) ← primary fuel "substr" rest
      let (start, last, rest) ← primary fuel last rest
      let (count, last, rest) ← primary fuel last rest
      let cut := match number? start, number? count with
        | some a, some b =>
          if 0 < a ∧ 0 < b then ((text.toList.drop (a.toNat - 1)).take b.toNat) else []
        | _, _ => []
      return (String.ofList cut, last, rest)
    | word :: rest => .ok (word, word, rest)

end

end Joined

/-- Print the value of words that operators join. -/
def expr (m : Machine) (words : List String) : Machine :=
  let words := if words.head? = some "--" then words.drop 1 else words
  if words.isEmpty then misuse m 2 Joined.Fault.missingOperand.message
  else match Joined.ranked (16 * words.length + 32) Joined.ranks "" words with
    | .error reason => fault m 2 reason.message
    | .ok (_, _, extra :: _) => fault m 2 (Joined.Fault.unexpected extra).message
    | .ok (value, _, []) =>
      (m.printText (value ++ "\n")).finish (if Joined.isNull value then 1 else 0)

end NfvCatalog.Shell.Utility
