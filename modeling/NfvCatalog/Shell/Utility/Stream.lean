import NfvCatalog.Shell.Utility.Matcher
import NfvCatalog.Shell.Utility.Options

/-! # Editing lines by a script

A script of small commands is run on each line of a text. A command can be bound to lines by their
numbers or by expressions, and changes or prints the line.
-/

namespace NfvCatalog.Shell.Utility.Edit

/-! ## Scripts -/

/-- What binds a command to lines. An expression that is not given is the last one that was used. -/
inductive Address where
  | line (number : Nat)
  | last
  | step (first size : Nat)
  | holds (expression : Option Expression) (anyCase byLine : Bool)
  | further (count : Nat)
  | multiple (size : Nat)
deriving DecidableEq, Repr, Inhabited

/-- The lines that a command is for. -/
structure Range where
  first : Option Address := none
  last : Option Address := none
  isNegated : Bool := false
deriving DecidableEq, Repr, Inhabited

/-- How letters of a replacement are written. -/
inductive Casing where
  | upper
  | lower
  | upperOnce
  | lowerOnce
  | plain
deriving DecidableEq, Repr, Inhabited

/-- A part of a replacement: a text, a part of the match, or a casing. -/
inductive Substitution where
  | text (text : List Char)
  | group (number : Nat)
  | casing (casing : Casing)
deriving DecidableEq, Repr, Inhabited

/-- A replacement of matches. -/
structure Replacement where
  expression : Option Expression
  parts : List Substitution
  anyCase : Bool := false
  byLine : Bool := false
  isAll : Bool := false
  number : Nat := 1
  prints : Bool := false
  file : Option String := none
deriving DecidableEq, Repr, Inhabited

/-- Where a text goes: behind the line, before it, or in its place. -/
inductive TextPlace where
  | behind
  | before
  | inPlace
deriving DecidableEq, Repr, Inhabited

/-- What a command does. A block ends before the command with a number. -/
inductive Action where
  | block (stop : Nat)
  | blockEnd
  | delete
  | deleteFirst
  | print
  | printFirst
  | printNumber
  | printName
  | next
  | appendNext
  | keep
  | appendKept
  | take
  | appendTaken
  | exchange
  | clear
  | list
  | quit (prints : Bool) (status : Nat)
  | text (place : TextPlace) (text : List Char)
  | readFile (path : String)
  | writeFile (path : String)
  | replace (replacement : Replacement)
  | translate (pairs : List (Char × Char))
  | label (name : String)
  | jump (name : String)
  | jumpIfReplaced (wanted : Bool) (name : String)
deriving DecidableEq, Repr, Inhabited

/-- A command: the lines that it is for, and what it does. -/
structure Step where
  range : Range
  action : Action
deriving DecidableEq, Repr, Inhabited

/-- Why a text is no script. -/
inductive Fault where
  | unterminatedReplacement
  | unterminatedAddress
  | unterminatedTranslation
  | unknownOption
  | unknownCommand (c : Char)
  | missingCommand
  | unexpectedComma
  | unexpectedEnd
  | openBlock
  | extraCharacters
  | textExpected
  | differentLengths
  | zeroNumber
  | many (what : String)
  | badReference (number : Nat)
  | labelWithAddress
  | commentWithAddress
  | zeroLine
  | expression (reason : ExpressionFault)
deriving DecidableEq, Repr, Inhabited

/-- The wording of a fault. -/
def Fault.message : Fault → String
  | .unterminatedReplacement => "unterminated \x60s' command"
  | .unterminatedAddress => "unterminated address regex"
  | .unterminatedTranslation => "unterminated \x60y' command"
  | .unknownOption => "unknown option to \x60s'"
  | .unknownCommand c => "unknown command: \x60" ++ String.singleton c ++ "'"
  | .missingCommand => "missing command"
  | .unexpectedComma => "unexpected \x60,'"
  | .unexpectedEnd => "unexpected \x60\x7d'"
  | .openBlock => "unmatched \x60\x7b'"
  | .extraCharacters => "extra characters after command"
  | .textExpected => "expected \\ after \x60a', \x60c' or \x60i'"
  | .differentLengths => "strings for \x60y' command are different lengths"
  | .zeroNumber => "number option to \x60s' command may not be zero"
  | .many what => "multiple " ++ what ++ " options to \x60s' command"
  | .badReference number => "invalid reference \\" ++ toString number ++ " on \x60s' command's RHS"
  | .labelWithAddress => ": doesn't want any addresses"
  | .commentWithAddress => "comments don't accept any addresses"
  | .zeroLine => "invalid usage of line address 0"
  | .expression reason => reason.message

/-- A fault, and the text behind the place where it was found. -/
abbrev Read (α : Type) := Except (Fault × List Char) α

/-! ## Reading scripts -/

/-- The text up to a mark that no backslash hides, and the text behind it. In expressions a hidden
`n` is a line break. `fuel` bounds the characters. -/
def upTo (mark : Char) (isExpression : Bool) : Nat → List Char → Option (List Char × List Char)
  | 0, _ => none
  | fuel + 1, cs =>
    let more (found : List Char) (rest : List Char) : Option (List Char × List Char) :=
      (upTo mark isExpression fuel rest).map fun (inside, rest) => (found ++ inside, rest)
    match cs with
    | [] => none
    | '\\' :: c :: rest =>
      if c = mark && !(c = '&' && !isExpression) then more [c] rest
      else if c = 'n' && isExpression then more ['\n'] rest
      else more ['\\', c] rest
    | c :: rest =>
      if c = mark then some ([], rest)
      else if c = '\n' && isExpression then none
      else more [c] rest

/-- An expression in which letters behind backslashes stand for blanks. -/
def withBlanks : List Char → List Char
  | '\\' :: '\\' :: rest => '\\' :: '\\' :: withBlanks rest
  | '\\' :: 't' :: rest => '\t' :: withBlanks rest
  | '\\' :: 'f' :: rest => '\x0c' :: withBlanks rest
  | '\\' :: 'v' :: rest => '\x0b' :: withBlanks rest
  | '\\' :: 'r' :: rest => '\r' :: withBlanks rest
  | '\\' :: 'a' :: rest => '\x07' :: withBlanks rest
  | c :: rest => c :: withBlanks rest
  | [] => []

/-- The expression of a text; an empty one is the last that was used. -/
def expression? (isExtended : Bool) (text : List Char) :
    Except ExpressionFault (Option Expression) :=
  if text.isEmpty then .ok none
  else (Expression.ofSpelled isExtended (withBlanks text)).map some

/-- Text without blanks at its start. -/
def behindBlanks (cs : List Char) : List Char := cs.dropWhile fun c => c = ' ' || c = '\t'

/-- The number at the start of a text, and the text behind it. -/
def number? (cs : List Char) : Option (Nat × List Char) :=
  let digits := cs.takeWhile Char.isDigit
  if digits.isEmpty then none else some (Spelled.numeral 10 digits, cs.drop digits.length)

/-- The address at the start of a text, and the text behind it. -/
def address? (isExtended : Bool) (cs : List Char) : Read (Option (Address × List Char)) :=
  let expression (mark : Char) (rest : List Char) : Read (Option (Address × List Char)) :=
    match upTo mark true (rest.length + 1) rest with
    | none => .error (.unterminatedAddress, [])
    | some (inside, rest) =>
      let flags := rest.takeWhile fun c => c = 'I' || c = 'M'
      match expression? isExtended inside with
      | .ok expression =>
        .ok (some (.holds expression (flags.contains 'I') (flags.contains 'M'),
          rest.drop flags.length))
      | .error reason => .error (.expression reason, rest)
  match number? cs, cs with
  | some (n, '~' :: rest), _ =>
    let (size, rest) := (number? rest).getD (0, rest)
    .ok (some (.step n size, rest))
  | some (n, rest), _ => .ok (some (.line n, rest))
  | none, '$' :: rest => .ok (some (.last, rest))
  | none, '/' :: rest => expression '/' rest
  | none, '\\' :: mark :: rest => expression mark rest
  | none, _ => .ok none

/-- The end of a range at the start of a text. -/
def rangeEnd? (isExtended : Bool) (cs : List Char) : Read (Option (Address × List Char)) :=
  match cs with
  | '+' :: rest => .ok ((number? rest).map fun (n, rest) => (.further n, rest))
  | '~' :: rest => .ok ((number? rest).map fun (n, rest) => (.multiple n, rest))
  | _ => address? isExtended cs

/-- The parts of a replacement. `text` is what was read of a text, the last first; `fuel` bounds the
characters. -/
def substitutions : Nat → List Char → List Char → List Substitution
  | 0, _, _ => []
  | fuel + 1, text, cs =>
    let done : List Substitution := if text.isEmpty then [] else [.text text.reverse]
    let part (part : Substitution) (rest : List Char) : List Substitution :=
      done ++ part :: substitutions fuel [] rest
    match cs with
    | [] => done
    | '&' :: rest => part (.group 0) rest
    | '\\' :: c :: rest =>
      if c.isDigit then part (.group (c.toNat - '0'.toNat)) rest
      else match c with
        | 'U' => part (.casing .upper) rest
        | 'L' => part (.casing .lower) rest
        | 'u' => part (.casing .upperOnce) rest
        | 'l' => part (.casing .lowerOnce) rest
        | 'E' => part (.casing .plain) rest
        | 'n' => substitutions fuel ('\n' :: text) rest
        | 't' => substitutions fuel ('\t' :: text) rest
        | 'r' => substitutions fuel ('\r' :: text) rest
        | 'a' => substitutions fuel ('\x07' :: text) rest
        | 'f' => substitutions fuel ('\x0c' :: text) rest
        | 'v' => substitutions fuel ('\x0b' :: text) rest
        | c => substitutions fuel (c :: text) rest
    | c :: rest => substitutions fuel (c :: text) rest

/-- The text of a file's name up to the end of the line. -/
def fileName (cs : List Char) : String × List Char :=
  let cs := behindBlanks cs
  let name := cs.takeWhile (· ≠ '\n')
  (String.ofList name, cs.drop name.length)

/-- The flags of a replacement. `fuel` bounds them. -/
def flags : Nat → Bool → Replacement → List Char → Read (Replacement × List Char)
  | 0, _, replacement, cs => .ok (replacement, cs)
  | fuel + 1, hasNumber, replacement, cs =>
    match cs with
    | [] => .ok (replacement, [])
    | c :: rest =>
      match c with
      | 'g' =>
        if replacement.isAll then .error (.many "\x60g'", rest)
        else flags fuel hasNumber { replacement with isAll := true } rest
      | 'p' =>
        if replacement.prints then .error (.many "\x60p'", rest)
        else flags fuel hasNumber { replacement with prints := true } rest
      | 'i' | 'I' => flags fuel hasNumber { replacement with anyCase := true } rest
      | 'm' | 'M' => flags fuel hasNumber { replacement with byLine := true } rest
      | 'w' =>
        let (name, rest) := fileName rest
        .ok ({ replacement with file := some name }, rest)
      | '\n' | ';' | ' ' | '\t' | '\r' | '#' | '\x7d' => .ok (replacement, cs)
      | _ =>
        match number? cs with
        | some (0, rest) => .error (.zeroNumber, rest)
        | some (number, rest) =>
          if hasNumber then .error (.many "number", rest)
          else flags fuel true { replacement with number } rest
        | none => .error (.unknownOption, rest)

/-- The number of groups of an expression. -/
def groupCount : Expression → Nat
  | .group _ body => groupCount body + 1
  | .inOrder first second | .either first second => groupCount first + groupCount second
  | .repeated body _ _ => groupCount body
  | _ => 0

/-- The replacement behind its letter, and the text behind it. -/
def replacement (isExtended : Bool) (cs : List Char) : Read (Replacement × List Char) :=
  match cs with
  | [] => .error (.unterminatedReplacement, [])
  | mark :: rest =>
    match upTo mark true (rest.length + 1) rest with
    | none => .error (.unterminatedReplacement, [])
    | some (pattern, rest) =>
      match upTo mark false (rest.length + 1) rest with
      | none => .error (.unterminatedReplacement, [])
      | some (text, rest) => do
        let parts := substitutions (text.length + 1) [] text
        let (found, behind) ← flags (rest.length + 1) false { expression := none, parts } rest
        match expression? isExtended pattern with
        | .error reason => throw (.expression reason, behind)
        | .ok expression =>
          let groups := (expression.map groupCount).getD 9
          let bad? := parts.findSome? fun part => match part with
            | .group number => if groups < number then some number else none
            | _ => none
          match bad? with
          | some number => throw (.badReference number, behind)
          | none => return ({ found with expression }, behind)

/-- The characters of a translation. -/
def translated : List Char → List Char
  | '\\' :: '\\' :: rest => '\\' :: translated rest
  | '\\' :: 'n' :: rest => '\n' :: translated rest
  | '\\' :: 't' :: rest => '\t' :: translated rest
  | c :: rest => c :: translated rest
  | [] => []

/-- The text of a command that puts a text somewhere. `fuel` bounds the characters. -/
def putText : Nat → List Char → List Char × List Char
  | 0, cs => ([], cs)
  | fuel + 1, cs =>
    match cs with
    | [] => ([], [])
    | '\n' :: rest => ([], rest)
    | '\\' :: c :: rest =>
      let (text, rest) := putText fuel rest
      (c :: text, rest)
    | '\\' :: [] => ([], [])
    | c :: rest =>
      let (text, rest) := putText fuel rest
      (c :: text, rest)

/-- The text behind a command that must end here. -/
def behindEnd (cs : List Char) : Read (List Char) :=
  let rest := behindBlanks cs
  match rest with
  | [] => .ok []
  | c :: tail =>
    if c = ';' || c = '\n' then .ok tail
    else if c = '#' || c = '\x7d' then .ok rest
    else .error (.extraCharacters, tail)

/-- The name of a label, and the text behind it. -/
def labelName (cs : List Char) : String × List Char :=
  let cs := behindBlanks cs
  let name := cs.takeWhile fun c => c ≠ ';' && !Spelled.isSpace c
  (String.ofList name, cs.drop name.length)

/-- The action of a letter, and the text behind it. -/
def action (isExtended : Bool) (letter : Char) (rest : List Char) : Read (Action × List Char) := do
  let plain (action : Action) : Read (Action × List Char) := do return (action, ← behindEnd rest)
  let put (place : TextPlace) : Read (Action × List Char) :=
    let start := behindBlanks rest
    match start with
    | [] => .error (.textExpected, [])
    | '\\' :: tail =>
      let body := match behindBlanks tail with
        | '\n' :: text => text
        | _ => tail
      if (behindBlanks tail).isEmpty && place = .inPlace then .ok (.text place [], [])
      else if (behindBlanks tail).isEmpty then .error (.textExpected, [])
      else
        let (text, rest) := putText (body.length + 1) body
        .ok (.text place (text ++ ['\n']), rest)
    | _ =>
      let (text, rest) := putText (start.length + 1) start
      .ok (.text place (text ++ ['\n']), rest)
  let status : Nat × List Char :=
    (number? (behindBlanks rest)).getD (0, rest)
  match letter with
  | 'd' => plain .delete
  | 'D' => plain .deleteFirst
  | 'p' => plain .print
  | 'P' => plain .printFirst
  | '=' => plain .printNumber
  | 'F' => plain .printName
  | 'n' => plain .next
  | 'N' => plain .appendNext
  | 'h' => plain .keep
  | 'H' => plain .appendKept
  | 'g' => plain .take
  | 'G' => plain .appendTaken
  | 'x' => plain .exchange
  | 'z' => plain .clear
  | 'l' => return (.list, ← behindEnd status.2)
  | 'q' => return (.quit true status.1, ← behindEnd status.2)
  | 'Q' => return (.quit false status.1, ← behindEnd status.2)
  | 'a' => put .behind
  | 'i' => put .before
  | 'c' => put .inPlace
  | 'r' =>
    let (name, rest) := fileName rest
    return (.readFile name, rest)
  | 'w' =>
    let (name, rest) := fileName rest
    return (.writeFile name, rest)
  | 's' =>
    let (found, rest) ← replacement isExtended rest
    return (.replace found, ← behindEnd rest)
  | 'y' =>
    match rest with
    | [] => throw (.unterminatedTranslation, [])
    | mark :: rest =>
      match upTo mark false (rest.length + 1) rest with
      | none => throw (.unterminatedTranslation, [])
      | some (source, rest) =>
        match upTo mark false (rest.length + 1) rest with
        | none => throw (.unterminatedTranslation, [])
        | some (target, rest) =>
          let source := translated source
          let target := translated target
          if source.length ≠ target.length then throw (.differentLengths, rest)
          else return (.translate (source.zip target), ← behindEnd rest)
  | ':' =>
    let (name, rest) := labelName rest
    return (.label name, ← behindEnd rest)
  | 'b' =>
    let (name, rest) := labelName rest
    return (.jump name, ← behindEnd rest)
  | 't' =>
    let (name, rest) := labelName rest
    return (.jumpIfReplaced true name, ← behindEnd rest)
  | 'T' =>
    let (name, rest) := labelName rest
    return (.jumpIfReplaced false name, ← behindEnd rest)
  | c => throw (.unknownCommand c, rest)

/-- The steps of a script: those that were read, the last first, and the numbers of open blocks.
`fuel` bounds the steps. -/
def steps (isExtended : Bool) : Nat → List Step → List Nat → List Char → Read (List Step)
  | 0, done, _, _ => .ok done.reverse
  | fuel + 1, done, blocks, cs => do
    let cs := cs.dropWhile fun c => Spelled.isSpace c || c = ';'
    match cs with
    | [] => if blocks.isEmpty then return done.reverse else throw (.openBlock, cs)
    | '#' :: rest => steps isExtended fuel done blocks (rest.dropWhile (· ≠ '\n'))
    | '\x7d' :: rest =>
      match blocks with
      | [] => throw (.unexpectedEnd, rest)
      | start :: blocks =>
        let stop := done.length + 1
        let closed := done.zipIdx.map fun entry =>
          if done.length - 1 - entry.2 = start then { entry.1 with action := Action.block stop }
          else entry.1
        steps isExtended fuel (⟨{}, .blockEnd⟩ :: closed) blocks (← behindEnd rest)
    | _ =>
      let (first, rest) := match ← address? isExtended cs with
        | some (address, rest) => (some address, behindBlanks rest)
        | none => (none, cs)
      let (last, rest) ← match first, rest with
        | some _, ',' :: tail =>
          match ← rangeEnd? isExtended (behindBlanks tail) with
          | some (address, rest) => pure (some address, behindBlanks rest)
          | none => throw (.unexpectedComma, tail.drop 1)
        | _, _ => pure (none, rest)
      let isExpression := match last with
        | some (.holds ..) => true
        | _ => false
      if first = some (.line 0) && !isExpression then throw (.zeroLine, rest.drop 1)
      let isNegated := rest.head? = some '!'
      let rest := if isNegated then
          rest.dropWhile fun c => c = '!' || c = ' ' || c = '\t'
        else rest
      let range : Range := { first, last, isNegated }
      match rest with
      | [] => throw (.missingCommand, [])
      | '\x7b' :: rest =>
        steps isExtended fuel (⟨range, .block 0⟩ :: done) (done.length :: blocks) rest
      | '\x7d' :: rest => throw (.unexpectedEnd, rest)
      | letter :: rest =>
        if letter = '#' then throw (.commentWithAddress, rest)
        else if letter = ':' && first.isSome then throw (.labelWithAddress, rest)
        else if letter = ',' then throw (.unexpectedComma, rest)
        else
          let (action, rest) ← action isExtended letter rest
          steps isExtended fuel (⟨range, action⟩ :: done) blocks rest

/-! ## Running scripts -/

/-- A line of the input, the file that it is from, and whether a line break ends it. -/
structure InputLine where
  text : List Char
  file : String
  hasBreak : Bool := true
deriving Repr, Inhabited

/-- What is done at the end of a cycle: a text is printed, or a file. -/
inductive Later where
  | text (text : List Char)
  | file (path : String)
deriving Repr, Inhabited

/-- A run of a script. -/
structure Run where
  space : List Char := []
  kept : List Char := []
  number : Nat := 0
  file : String := "-"
  hasBreak : Bool := true
  rest : List InputLine := []
  later : List Later := []
  /-- The numbers of steps whose ranges have begun, with the line where each ends if it is known. -/
  begun : List (Nat × Option Nat) := []
  lastExpression : Option Expression := none
  isReplaced : Bool := false
  shown : List Char := []
  /-- Whether the last line that was printed lacks its line break. -/
  lacksBreak : Bool := false
  written : List (String × List Char) := []
  /-- The status of a run that has ended. -/
  status : Option Nat := none
  keepsSpace : Bool := false
deriving Inhabited

namespace Run

/-- Print characters. `shown` has the last first. -/
def put (run : Run) (text : List Char) : Run :=
  let front := if run.lacksBreak && !text.isEmpty then ['\n'] else []
  { run with
    shown := text.reverse ++ front ++ run.shown
    lacksBreak := run.lacksBreak && text.isEmpty }

/-- Print a line; the last one of an input has a line break only if it had one there. -/
def putLine (run : Run) (text : List Char) : Run :=
  let lacks := !run.hasBreak && run.rest.isEmpty
  let done := run.put (if lacks then text else text ++ ['\n'])
  { done with lacksBreak := if lacks then true else done.lacksBreak }

/-- Take the next line of the input. -/
def advance (run : Run) : Run :=
  match run.rest with
  | [] => run
  | line :: rest =>
    { run with
      space := line.text, file := line.file, hasBreak := line.hasBreak, rest
      number := run.number + 1 }

/-- Write a line to a file. -/
def write (run : Run) (path : String) (text : List Char) : Run :=
  if path = "/dev/stdout" then run.put (text ++ ['\n'])
  else
    { run with
      written := run.written.map fun entry =>
        if entry.1 = path then (path, entry.2 ++ text ++ ['\n']) else entry }

/-- Do what was put off to the end of the cycle. -/
def flush (m : Machine) (run : Run) : Run :=
  let done := run.later.foldl (fun (run : Run) later => match later with
    | .text text => run.put text
    | .file path =>
      match m.bytesOf path with
      | .ok bytes => run.put (Octets.ofBytes bytes).toList
      | .error _ => run) run
  { done with later := [] }

/-- The expression that is meant, and the run that remembers it. -/
def remember (run : Run) (expression : Option Expression) : Run × Expression :=
  let used := (expression.orElse fun _ => run.lastExpression).getD .nothing
  ({ run with lastExpression := some used }, used)

/-- Whether an address is that of the line. -/
def isAt (run : Run) (address : Address) : Run × Bool :=
  match address with
  | .line number => (run, number = run.number)
  | .last => (run, run.rest.isEmpty)
  | .step first size =>
    (run, if size = 0 then run.number = first
      else first ≤ run.number && (run.number - first) % size = 0)
  | .holds expression anyCase byLine =>
    let (run, used) := run.remember expression
    (run, (used.find? { text := run.space.toArray, anyCase, byLine } 0).isSome)
  | .further _ | .multiple _ => (run, false)

/-- The line on which a range that has just begun ends, if that is known. -/
def endLine? (run : Run) : Address → Option Nat
  | .line number => some number
  | .further count => some (run.number + count)
  | .multiple size =>
    some (if size = 0 then run.number else (run.number + size - 1) / size * size)
  | _ => none

/-- Whether a step is for the line, and whether the line is the last of its range. -/
def isFor (run : Run) (index : Nat) (range : Range) : Run × Bool × Bool :=
  match range.first, range.last with
  | none, _ => (run, true, true)
  | some first, none =>
    let (run, found) := run.isAt first
    (run, found, true)
  | some first, some final =>
    let closed (run : Run) : Run := { run with begun := run.begun.filter (·.1 ≠ index) }
    let opened (run : Run) (stop : Option Nat) : Run :=
      { run with begun := (index, stop) :: run.begun }
    let isAlwaysOpen := first = .line 0 && run.number = 1
    match run.begun.find? (·.1 = index), isAlwaysOpen with
    | some (_, some stop), _ =>
      if stop < run.number then
        let (run, found) := (closed run).isAt first
        (run, found && first ≠ .line 0, true)
      else if stop = run.number then (closed run, true, true)
      else (run, true, false)
    | some (_, none), _ | none, true =>
      let (run, found) := run.isAt final
      if found then (closed run, true, true) else (opened (closed run) none, true, false)
    | none, false =>
      let (run, found) := run.isAt first
      if !found then (run, false, true)
      else match run.endLine? final with
        | some stop =>
          if stop ≤ run.number then (run, true, true) else (opened run (some stop), true, false)
        | none =>
          if final = .last && run.rest.isEmpty then (run, true, true)
          else (opened run none, true, false)

/-! ### Replacing -/

/-- A text under a casing, and the casing behind it. -/
def cased (casing once : Casing) (text : List Char) : List Char × Casing :=
  let whole := match casing with
    | .upper => text.map Char.toUpper
    | .lower => text.map Char.toLower
    | _ => text
  match once, whole with
  | .upperOnce, c :: rest => (c.toUpper :: rest, .plain)
  | .lowerOnce, c :: rest => (c.toLower :: rest, .plain)
  | once, _ => (whole, once)

/-- The text that replaces a match. -/
def replaced (parts : List Substitution) (text : List Char) (start : Nat)
    (found : Expression.Found) : List Char :=
  let cut (start stop : Nat) : List Char := (text.take stop).drop start
  (parts.foldl (fun (state : List Char × Casing × Casing) part =>
    let (done, casing, once) := state
    let add (text : List Char) : List Char × Casing × Casing :=
      let (shown, once) := cased casing once text
      (done ++ shown, casing, once)
    match part with
    | .text text => add text
    | .group 0 => add (cut start found.stop)
    | .group number =>
      match found.groups.find? (·.1 = number) with
      | some (_, start, stop) => add (cut start stop)
      | none => state
    | .casing next =>
      match next with
      | .upperOnce | .lowerOnce => (done, casing, next)
      | _ => (done, next, .plain)) ([], .plain, .plain)).1

/-- The text with matches replaced, from a place on; `count` matches come before it, and the last of
them ends at `last`. `fuel` bounds the matches. -/
def replaceFrom (replacement : Replacement) (expression : Expression)
    (subject : Expression.Subject) : Nat → Nat → Nat → Option Nat → List Char × Bool
  | 0, place, _, _ => (subject.text.toList.drop place, false)
  | fuel + 1, place, count, last =>
    let text := subject.text.toList
    match expression.find? subject place with
    | none => (text.drop place, false)
    | some (start, found) =>
      let before := (text.take start).drop place
      let isEmpty := start = found.stop
      if isEmpty && last = some start then
        match subject.text[start]? with
        | none => (text.drop place, false)
        | some c =>
          let (rest, done) := replaceFrom replacement expression subject fuel (start + 1) count none
          (before ++ c :: rest, done)
      else
        let number := count + 1
        let isMeant := number = replacement.number ||
          (replacement.isAll && replacement.number < number)
        let shown := if isMeant then replaced replacement.parts text start found
          else (text.take found.stop).drop start
        if isMeant && !replacement.isAll then (before ++ shown ++ text.drop found.stop, true)
        else if isEmpty then
          match subject.text[start]? with
          | none => (before ++ shown, isMeant)
          | some c =>
            let (rest, done) :=
              replaceFrom replacement expression subject fuel (start + 1) number none
            (before ++ shown ++ c :: rest, isMeant || done)
        else
          let (rest, done) :=
            replaceFrom replacement expression subject fuel found.stop number (some found.stop)
          (before ++ shown ++ rest, isMeant || done)

/-- A line in which nothing is hidden, in pieces of a width. -/
def visibleLine (text : List Char) : List Char :=
  let shown (c : Char) : List Char :=
    match [('\\', '\\'), ('\x07', 'a'), ('\x08', 'b'), ('\x0c', 'f'), ('\n', 'n'), ('\r', 'r'),
      ('\t', 't'), ('\x0b', 'v')].find? (·.1 = c) with
    | some (_, letter) => ['\\', letter]
    | none =>
      if ' ' ≤ c && c ≤ '~' then [c]
      else
        let digits := Nat.toDigits 8 c.toNat
        '\\' :: (List.replicate (3 - digits.length) '0' ++ digits)
  let (done, _) := text.foldl (fun (state : List Char × Nat) c =>
    let piece := shown c
    if 69 < state.2 + piece.length then (state.1 ++ '\\' :: '\n' :: piece, piece.length)
    else (state.1 ++ piece, state.2 + piece.length)) ([], 0)
  done ++ ['$']

end Run

/-- How a step ends: the next one follows, one with a number does, the cycle ends, with or without
the line printed, or starts again with what is left of the line. -/
inductive After where
  | goOn
  | goTo (index : Nat)
  | endCycle (prints : Bool)
  | again
deriving DecidableEq, Repr, Inhabited

/-- The number of the step behind a label; a jump without one goes to the end. -/
def labelled (steps : Array Step) (name : String) : Nat :=
  if name.isEmpty then steps.size
  else ((steps.findIdx? fun step => step.action = .label name).map (· + 1)).getD steps.size

/-- Run a step on the line. -/
def perform (m : Machine) (isQuiet : Bool) (steps : Array Step) (isLast : Bool) (run : Run)
    (action : Action) : Run × After :=
  let first := run.space.takeWhile (· ≠ '\n')
  let hasMore := first.length < run.space.length
  let shownUnlessQuiet (run : Run) : Run := if isQuiet then run else run.putLine run.space
  match action with
  | .block _ | .blockEnd | .label _ => (run, .goOn)
  | .delete => (run, .endCycle false)
  | .deleteFirst =>
    if hasMore then ({ run with space := run.space.drop (first.length + 1) }, .again)
    else (run, .endCycle false)
  | .print => (run.putLine run.space, .goOn)
  | .printFirst => (run.put (first ++ ['\n']), .goOn)
  | .printNumber => (run.put ((toString run.number).toList ++ ['\n']), .goOn)
  | .printName => (run.put (run.file.toList ++ ['\n']), .goOn)
  | .next =>
    if run.rest.isEmpty then ({ shownUnlessQuiet run with status := some 0 }, .endCycle false)
    else ((Run.flush m (shownUnlessQuiet run)).advance, .goOn)
  | .appendNext =>
    if run.rest.isEmpty then ({ shownUnlessQuiet run with status := some 0 }, .endCycle false)
    else
      let next := (Run.flush m run).advance
      ({ next with space := run.space ++ '\n' :: next.space }, .goOn)
  | .keep => ({ run with kept := run.space }, .goOn)
  | .appendKept => ({ run with kept := run.kept ++ '\n' :: run.space }, .goOn)
  | .take => ({ run with space := run.kept }, .goOn)
  | .appendTaken => ({ run with space := run.space ++ '\n' :: run.kept }, .goOn)
  | .exchange => ({ run with space := run.kept, kept := run.space }, .goOn)
  | .clear => ({ run with space := [] }, .goOn)
  | .list => (run.put (Run.visibleLine run.space ++ ['\n']), .goOn)
  | .quit prints status =>
    let run := if prints then shownUnlessQuiet run else run
    ({ run with status := some status }, .endCycle false)
  | .text .before text => (run.put text, .goOn)
  | .text .behind text => ({ run with later := run.later ++ [.text text] }, .goOn)
  | .text .inPlace text => (if isLast then run.put text else run, .endCycle false)
  | .readFile path => ({ run with later := run.later ++ [.file path] }, .goOn)
  | .writeFile path => (run.write path run.space, .goOn)
  | .replace replacement =>
    let (run, used) := run.remember replacement.expression
    let subject : Expression.Subject :=
      ⟨run.space.toArray, replacement.anyCase, replacement.byLine⟩
    let (space, done) := Run.replaceFrom replacement used subject (run.space.length + 2) 0 0 none
    if !done then (run, .goOn)
    else
      let run := { run with space, isReplaced := true }
      let run := if replacement.prints then run.putLine space else run
      (match replacement.file with
        | some path => run.write path space
        | none => run, .goOn)
  | .translate pairs =>
    ({ run with space := run.space.map fun c =>
        ((pairs.find? (·.1 = c)).map Prod.snd).getD c }, .goOn)
  | .jump name => (run, .goTo (labelled steps name))
  | .jumpIfReplaced wanted name =>
    let isMet := run.isReplaced = wanted
    ({ run with isReplaced := false }, if isMet then .goTo (labelled steps name) else .goOn)

/-- Run the steps from one on until the cycle ends. `fuel` bounds the steps. -/
def cycle (m : Machine) (isQuiet : Bool) (steps : Array Step) : Nat → Nat → Run → Run × After
  | 0, _, run => ({ run with status := some 1 }, .endCycle false)
  | fuel + 1, index, run =>
    match steps[index]? with
    | none => (run, .endCycle true)
    | some step =>
      let (run, found, isLast) := run.isFor index step.range
      if found = step.range.isNegated then
        match step.action with
        | .block stop => cycle m isQuiet steps fuel stop run
        | _ => cycle m isQuiet steps fuel (index + 1) run
      else
        match perform m isQuiet steps (isLast || step.range.isNegated) run step.action with
        | (run, .goOn) => cycle m isQuiet steps fuel (index + 1) run
        | (run, .goTo index) => cycle m isQuiet steps fuel index run
        | done => done

/-- Run a script on all lines. `fuel` bounds the cycles. -/
def cycles (m : Machine) (isQuiet : Bool) (steps : Array Step) : Nat → Run → Run
  | 0, run => run
  | fuel + 1, run =>
    if run.status.isSome || (run.rest.isEmpty && !run.keepsSpace) then run
    else
      let start := if run.keepsSpace then { run with keepsSpace := false } else run.advance
      let (done, after) :=
        cycle m isQuiet steps 20000 0 { start with isReplaced := start.isReplaced }
      let printed := if after = .endCycle true && !isQuiet then done.putLine done.space else done
      let flushed := Run.flush m printed
      cycles m isQuiet steps fuel { flushed with keepsSpace := decide (after = .again) }

end Edit

/-! ## The program -/

/-- The letters and names of the options of `sed`. -/
def sedUsage : Usage :=
  ⟨[⟨'n', "quiet", .never⟩, ⟨'n', "silent", .never⟩, ⟨'n', "", .never⟩,
    ⟨'e', "expression", .always⟩, ⟨'f', "file", .always⟩, ⟨'E', "regexp-extended", .never⟩,
    ⟨'E', "", .never⟩, ⟨'r', "", .never⟩, ⟨'i', "in-place", .maybe⟩, ⟨'s', "separate", .never⟩,
    ⟨'u', "unbuffered", .never⟩, ⟨'z', "null-data", .never⟩, ⟨'p', "posix", .never⟩,
    ⟨'!', "debug", .never⟩, ⟨'"', "sandbox", .never⟩, ⟨'l', "line-length", .always⟩], true, 1⟩

/-- Edit texts by a script. -/
def sed (m : Machine) (words : List String) : Machine :=
  let help := "Usage: sed [OPTION]... \x7bscript-only-if-no-other-script\x7d [input-file]...\n"
  match sedUsage.read (words.length + 1) words with
  | .error text => (m.complain (m.name ++ ": " ++ text ++ "\n" ++ help)).finish 1
  | .ok given =>
    let pieces := given.options.filterMap fun (letter, value) =>
      if letter = 'e' then some value
      else if letter = 'f' then
        (m.bytesOf value).toOption.map fun bytes =>
          let text := Octets.ofBytes bytes
          if Text.endsWith text "\n" then String.ofList text.toList.dropLast else text
      else none
    let missing? := (given.values 'f').find? fun path => !(m.bytesOf path).toOption.isSome
    let hasScript := given.has 'e' || given.has 'f'
    let script := if hasScript then Text.join "\n" pieces else given.operands.headD ""
    let files := if hasScript then given.operands else given.operands.drop 1
    let isExtended := given.has 'E' || given.has 'r'
    if !hasScript && given.operands.isEmpty then (m.complain help).finish 1
    else match missing?, Edit.steps isExtended (script.length + 2) [] [] script.toList with
      | some path, _ =>
        fault m 1 ("couldn't open file " ++ path ++ ": " ++ FileError.notFound.reason)
      | none, .error (reason, rest) =>
        let isOpenBlock := decide (reason = .openBlock)
        let place := if isOpenBlock then 0 else script.length - rest.length
        let source := match given.value? 'f', given.has 'e' with
          | some path, false =>
            let lines := ((script.toList.take place).filter (· = '\n')).length + 1
            "file " ++ path ++ " line " ++ toString lines
          | _, _ => "-e expression #1, char " ++ toString place
        fault m 1 (source ++ ": " ++ reason.message)
      | none, .ok steps =>
        let isQuiet := given.has 'n' || Text.startsWith script "#n\n" || script = "#n"
        let labels := steps.filterMap fun step => match step.action with
          | .label name => some name
          | _ => none
        let lost? := steps.findSome? fun step => match step.action with
          | .jump name | .jumpIfReplaced _ name =>
            if name.isEmpty || labels.contains name then none else some name
          | _ => none
        let paths := (steps.filterMap fun step => match step.action with
          | .writeFile path => some path
          | .replace found => found.file
          | _ => none).eraseDups
        match lost? with
        | some name => fault m 1 ("can't find label for jump to \x60" ++ name ++ "'")
        | none =>
          let mark := if given.has 'z' then '\x00' else '\n'
          let start : Edit.Run := { written := paths.map fun path => (path, []) }
          let linesOf (path : String) (content : List Char) : List Edit.InputLine :=
            let lines := Text.splitChars mark content
            let full := lines.dropLast.map fun line => ⟨line, path, true⟩
            match lines.getLast? with
            | some [] | none => full
            | some last => full ++ [⟨last, path, false⟩]
          let shown (run : Edit.Run) : List Char :=
            if mark = '\n' then run.shown.reverse
            else run.shown.reverse.map fun c => if c = '\n' then mark else c
          let step (state : Machine × List (String × List Edit.InputLine)) (path : String) :
              Machine × List (String × List Edit.InputLine) :=
            match contentOf state.1 path with
            | (m, .ok content) => (m, state.2 ++ [(path, linesOf path content)])
            | (m, .error error) =>
              if error = .isDirectory then
                let text := if given.has 'i' then "couldn't edit " ++ path ++ ": not a regular file"
                  else "read error on " ++ path ++ ": " ++ error.reason
                (fault m 4 text, state.2)
              else (fault m 2 ("can't read " ++ path ++ ": " ++ error.reason), state.2)
          let (m, inputs) := (if files.isEmpty then ["-"] else files).foldl step (m.finish 0, [])
          let array := steps.toArray
          let runOn (m : Machine) (run : Edit.Run) (lines : List Edit.InputLine) : Edit.Run :=
            Edit.cycles m isQuiet array (2 * lines.length + 2000) { run with rest := lines }
          let writeAll (m : Machine) (run : Edit.Run) : Machine :=
            run.written.foldl (fun m entry =>
              match m.tree.write (m.place entry.1)
                (.bytes (Octets.bytes (String.ofList entry.2))) with
              | .ok tree => { m with tree }
              | .error error =>
                fault m 4 ("couldn't open file " ++ entry.1 ++ ": " ++ error.reason)) m
          let ended (m : Machine) (run : Edit.Run) : Machine :=
            let m := writeAll m run
            match run.status with
            | some status => if status = 0 then m else m.finish status
            | none => m
          if given.has 'i' then
            let (m, run) := inputs.foldl (fun (state : Machine × Edit.Run) input =>
              let run := runOn state.1 { state.2 with shown := [], number := 0 } input.2
              let suffix := (given.value? 'i').getD ""
              let m := if suffix.isEmpty then state.1
                else match state.1.tree.read (state.1.place input.1) with
                  | .ok content =>
                    match state.1.tree.write (state.1.place (input.1 ++ suffix)) content with
                    | .ok tree => { state.1 with tree }
                    | .error _ => state.1
                  | .error _ => state.1
              match m.tree.write (m.place input.1)
                (.bytes (Octets.bytes (String.ofList (shown run)))) with
              | .ok tree => ({ m with tree }, run)
              | .error _ => (m, run)) (m, start)
            ended m run
          else if given.has 's' then
            let (m, run) := inputs.foldl (fun (state : Machine × Edit.Run) input =>
              let run := runOn state.1 { state.2 with shown := [] } input.2
              (state.1.printText (String.ofList (shown run)), run)) (m, start)
            ended m run
          else
            let run := runOn m start (inputs.flatMap Prod.snd)
            ended (m.printText (String.ofList (shown run))) run

end NfvCatalog.Shell.Utility
