import NfvCatalog.Shell.Script
import NfvCatalog.Shell.Spelled
import NfvCatalog.Shell.Wildcard

/-! # Expressions of text tools

Basic and extended expressions, in which parts of a match have numbers. Of all matches the first is
taken, and of those that start there the longest.
-/

namespace NfvCatalog.Shell.Utility

/-- A place that takes no character. -/
inductive Edge where
  | lineStart
  | lineEnd
  | textStart
  | textEnd
  | wordStart
  | wordEnd
  | wordEdge
  | noWordEdge
deriving DecidableEq, Repr, Inhabited

/-- An expression. -/
inductive Expression where
  | nothing
  | set (isInside : Bool) (ranges : List (Char × Char))
  | edge (edge : Edge)
  | group (number : Nat) (body : Expression)
  | inOrder (first second : Expression)
  | either (first second : Expression)
  | repeated (body : Expression) (least : Nat) (most : Option Nat)
  | again (number : Nat)
deriving DecidableEq, Repr, Inhabited

/-- Why a text is no expression. -/
inductive ExpressionFault where
  | openBracket
  | openGroup
  | unopenedGroup
  | openCount
  | badCount
  | badRange
  | badClass
  | trailingBackslash
  | nothingToRepeat
  | badReference
deriving DecidableEq, Repr, Inhabited

/-- The wording of a fault. -/
def ExpressionFault.message : ExpressionFault → String
  | .openBracket => "Unmatched [, [^, [:, [., or [="
  | .openGroup => "Unmatched ( or \\("
  | .unopenedGroup => "Unmatched ) or \\)"
  | .openCount => "Unmatched \\\x7b"
  | .badCount => "Invalid content of \\\x7b\\\x7d"
  | .badRange => "Invalid range end"
  | .badClass => "Invalid character class name"
  | .trailingBackslash => "Trailing backslash"
  | .nothingToRepeat => "Invalid preceding regular expression"
  | .badReference => "Invalid back reference"

namespace Expression

/-! ## Reading -/

/-- The expression of a character. -/
def ofChar (c : Char) : Expression := .set true [(c, c)]

/-- The expression of a text that stands for itself. -/
def ofText (text : List Char) : Expression :=
  text.foldr (fun c rest => if rest = .nothing then ofChar c else .inOrder (ofChar c) rest) .nothing

/-- The characters of words. -/
def wordRanges : List (Char × Char) := [('a', 'z'), ('A', 'Z'), ('0', '9'), ('_', '_')]

/-- The characters of blanks. -/
def blankRanges : List (Char × Char) := [(' ', ' '), ('\t', '\r')]

/-- What a letter behind a backslash stands for. -/
def ofLetter? : Char → Option Expression
  | 'w' => some (.set true wordRanges)
  | 'W' => some (.set false wordRanges)
  | 's' => some (.set true blankRanges)
  | 'S' => some (.set false blankRanges)
  | 'b' => some (.edge .wordEdge)
  | 'B' => some (.edge .noWordEdge)
  | '<' => some (.edge .wordStart)
  | '>' => some (.edge .wordEnd)
  | '\x60' => some (.edge .textStart)
  | '\'' => some (.edge .textEnd)
  | _ => none

/-- The ranges of a bracket up to its end. `fuel` bounds the ranges. -/
def ranges : Nat → Bool → List Char → Except ExpressionFault (List (Char × Char) × List Char)
  | 0, _, _ => .error .openBracket
  | fuel + 1, isFirst, cs =>
    let more (found : List (Char × Char)) (rest : List Char) :
        Except ExpressionFault (List (Char × Char) × List Char) := do
      let (others, rest) ← ranges fuel false rest
      return (found ++ others, rest)
    let element (cs : List Char) : Except ExpressionFault (Option (Char × List Char)) :=
      match cs with
      | '[' :: mark :: c :: close :: ']' :: rest =>
        if (mark = '.' || mark = '=') && close = mark then .ok (some (c, rest))
        else .ok (some ('[', cs.drop 1))
      | c :: rest => .ok (some (c, rest))
      | [] => .ok none
    match cs with
    | [] => .error .openBracket
    | ']' :: rest => if isFirst then afterLow fuel ']' rest more else .ok ([], rest)
    | '[' :: ':' :: rest =>
      let name := rest.takeWhile fun c => c ≠ ':' && c ≠ ']'
      match rest.drop name.length with
      | ':' :: ']' :: rest =>
        match Wildcard.classes.find? (·.1.toList = name) with
        | some (_, found) => more found rest
        | none => .error .badClass
      | _ => .error .openBracket
    | _ => do
      match ← element cs with
      | some (low, rest) => afterLow fuel low rest more
      | none => throw .openBracket
where
  /-- A range behind its first character. -/
  afterLow (_fuel : Nat) (low : Char) (rest : List Char)
      (more : List (Char × Char) → List Char →
        Except ExpressionFault (List (Char × Char) × List Char)) :
      Except ExpressionFault (List (Char × Char) × List Char) :=
    match rest with
    | '-' :: high :: tail =>
      if high = ']' then more [(low, low)] rest
      else if high < low then .error .badRange
      else more [(low, high)] tail
    | _ => more [(low, low)] rest

/-- A part of an expression that was read: the expression, the text behind it, and the number of
groups so far. -/
structure Read where
  expression : Expression := .nothing
  rest : List Char
  groups : Nat
deriving Inhabited

/-- The counts of a repetition behind its opening brace, up to its closing one. -/
def counts (isExtended : Bool) (cs : List Char) :
    Except ExpressionFault (Nat × Option Nat × List Char) :=
  let low := cs.takeWhile Char.isDigit
  let rest := cs.drop low.length
  let (high, rest) : Option (List Char) × List Char := match rest with
    | ',' :: tail => (some (tail.takeWhile Char.isDigit), tail.dropWhile Char.isDigit)
    | _ => (none, rest)
  let least := Spelled.numeral 10 low
  let most := match high with
    | none => some least
    | some [] => none
    | some digits => some (Spelled.numeral 10 digits)
  let closed? := match isExtended, rest with
    | true, '\x7d' :: rest => some rest
    | false, '\\' :: '\x7d' :: rest => some rest
    | _, _ => none
  match closed? with
  | none => .error (if rest.isEmpty then .openCount else .badCount)
  | some rest =>
    if (low.isEmpty && high.isNone) || most.any (· < least) then .error .badCount
    else .ok (least, most, rest)

/-- The sign of a repetition at the start of a text, and the text behind it. -/
def repetition? (isExtended : Bool) (cs : List Char) :
    Except ExpressionFault (Option (Nat × Option Nat × List Char)) :=
  match isExtended, cs with
  | _, '*' :: rest => .ok (some (0, none, rest))
  | true, '+' :: rest | false, '\\' :: '+' :: rest => .ok (some (1, none, rest))
  | true, '?' :: rest | false, '\\' :: '?' :: rest => .ok (some (0, some 1, rest))
  | true, '\x7b' :: rest =>
    match counts true rest with
    | .ok found => .ok (some found)
    | .error _ => .ok none
  | false, '\\' :: '\x7b' :: rest => (counts false rest).map some
  | _, _ => .ok none

section

variable (isExtended : Bool)

/-- Whether a text starts with the sign between alternatives, and the text behind it. -/
def behindBar? : List Char → Option (List Char)
  | '|' :: rest => if isExtended then some rest else none
  | '\\' :: '|' :: rest => if isExtended then none else some rest
  | _ => none

/-- Whether a text starts with the end of a group, and the text behind it. -/
def behindClosing? : List Char → Option (List Char)
  | ')' :: rest => if isExtended then some rest else none
  | '\\' :: ')' :: rest => if isExtended then none else some rest
  | _ => none

/-- Whether a text starts with a group, and the text behind its sign. -/
def behindOpening? : List Char → Option (List Char)
  | '(' :: rest => if isExtended then some rest else none
  | '\\' :: '(' :: rest => if isExtended then none else some rest
  | _ => none

/-- An expression with the repetitions that follow it. `fuel` bounds them. -/
def withRepetitions : Nat → Expression → List Char → Except ExpressionFault (Expression × List Char)
  | 0, body, cs => .ok (body, cs)
  | fuel + 1, body, cs => do
    match ← repetition? isExtended cs with
    | some (least, most, rest) => withRepetitions fuel (.repeated body least most) rest
    | none => return (body, cs)

mutual

/-- Alternatives. `fuel` bounds the parts. -/
def alternatives : Nat → Nat → Nat → List Char → Except ExpressionFault Read
  | 0, _, _, _ => .error .openGroup
  | fuel + 1, depth, groups, cs => do
    let first ← branch fuel depth true groups cs
    match behindBar? isExtended first.rest with
    | some rest =>
      let others ← alternatives fuel depth first.groups rest
      return { others with expression := .either first.expression others.expression }
    | none => return first

/-- Parts in order, up to the end of the alternative. -/
def branch : Nat → Nat → Bool → Nat → List Char → Except ExpressionFault Read
  | 0, _, _, _, _ => .error .openGroup
  | fuel + 1, depth, isFirst, groups, cs =>
    let isClosed := (behindClosing? isExtended cs).isSome
    if cs.isEmpty || (behindBar? isExtended cs).isSome || (isClosed && depth ≠ 0) then
      .ok { rest := cs, groups }
    else if isClosed && !isExtended then .error .unopenedGroup
    else do
      let part ← part fuel depth isFirst groups cs
      let isAnchor := decide (part.expression = .edge .lineStart)
      let (expression, rest) ←
        if isAnchor && !isExtended then pure (part.expression, part.rest)
        else withRepetitions isExtended (part.rest.length + 1) part.expression part.rest
      let others ← branch fuel depth (isFirst && isAnchor) part.groups rest
      let joined := if others.expression = .nothing then expression
        else .inOrder expression others.expression
      return { others with expression := joined }

/-- A single part. -/
def part : Nat → Nat → Bool → Nat → List Char → Except ExpressionFault Read
  | 0, _, _, _, _ => .error .openGroup
  | fuel + 1, depth, isFirst, groups, cs =>
    let one (expression : Expression) (rest : List Char) : Except ExpressionFault Read :=
      .ok { expression, rest, groups }
    match behindOpening? isExtended cs with
    | some inside => do
      let body ← alternatives fuel (depth + 1) (groups + 1) inside
      match behindClosing? isExtended body.rest with
      | some rest => return { body with expression := .group (groups + 1) body.expression, rest }
      | none => throw .openGroup
    | none =>
      match cs with
      | [] => one .nothing []
      | ['\\'] => .error .trailingBackslash
      | '\\' :: c :: rest =>
        if '1' ≤ c && c ≤ '9' then
          let number := c.toNat - '0'.toNat
          if groups < number then .error .badReference else one (.again number) rest
        else if c = '\x7b' && !isExtended then .error .nothingToRepeat
        else match ofLetter? c with
          | some expression => one expression rest
          | none => one (ofChar c) rest
      | '.' :: rest => one (.set false []) rest
      | '[' :: '^' :: rest => do
        let (found, rest) ← ranges (rest.length + 1) true rest
        return { expression := .set false found, rest, groups }
      | '[' :: rest => do
        let (found, rest) ← ranges (rest.length + 1) true rest
        return { expression := .set true found, rest, groups }
      | '^' :: rest => one (if isFirst || isExtended then .edge .lineStart else ofChar '^') rest
      | '$' :: rest =>
        let isLast := rest.isEmpty || (behindBar? isExtended rest).isSome ||
          (behindClosing? isExtended rest).isSome
        one (if isLast || isExtended then .edge .lineEnd else ofChar '$') rest
      | c :: rest => one (ofChar c) rest

end

end

/-- The expression that a text spells. -/
def ofSpelled (isExtended : Bool) (text : List Char) : Except ExpressionFault Expression :=
  (alternatives isExtended (2 * text.length + 4) 0 0 text).map Read.expression

/-! ## Matching -/

/-- A text in which matches are sought, and whether case and lines matter. -/
structure Subject where
  text : Array Char
  anyCase : Bool := false
  byLine : Bool := false
deriving Inhabited

/-- The end of a match, and the places of its parts. -/
structure Found where
  stop : Nat
  groups : List (Nat × Nat × Nat) := []
deriving DecidableEq, Repr, Inhabited

/-- Whether a character belongs to a word. -/
def isWordChar (c : Char) : Bool := isNameChar c

/-- Whether a place of a text is an edge. -/
def Subject.isEdge (subject : Subject) (kind : Edge) (place : Nat) : Bool :=
  let isBefore := place ≠ 0 && (subject.text[place - 1]?).any isWordChar
  let isBehind := (subject.text[place]?).any isWordChar
  match kind with
  | .textStart => place = 0
  | .textEnd => place = subject.text.size
  | .lineStart => place = 0 || (subject.byLine && subject.text[place - 1]? = some '\n')
  | .lineEnd => place = subject.text.size || (subject.byLine && subject.text[place]? = some '\n')
  | .wordStart => !isBefore && isBehind
  | .wordEnd => isBefore && !isBehind
  | .wordEdge => isBefore != isBehind
  | .noWordEdge => isBefore == isBehind

/-- Whether ranges hold a character. -/
def Subject.holds (subject : Subject) (isInside : Bool) (ranges : List (Char × Char)) (c : Char) :
    Bool :=
  let within (c : Char) : Bool := ranges.any fun range => range.1 ≤ c && c ≤ range.2
  let found := within c || (subject.anyCase && (within c.toLower || within c.toUpper))
  found = isInside

/-- Ends without those that stop where an earlier one does. -/
def distinct (founds : List Found) : List Found :=
  founds.foldr (fun found rest => found :: rest.filter (·.stop ≠ found.stop)) []

/-- The ends behind repetitions of a step, from those behind `count` of them on. `fuel` bounds the
repetitions. -/
def rounds (step : Found → List Found) (least : Nat) (most : Option Nat) :
    Nat → Nat → List Found → List Found → List Found
  | 0, _, _, done => done
  | fuel + 1, count, ends, done =>
    let done := if least ≤ count then distinct (done ++ ends) else done
    if most.any (· ≤ count) || ends.isEmpty then done
    else
      let isNew (found : Found) : Bool := count < least || done.all (·.stop ≠ found.stop)
      rounds step least most fuel (count + 1) ((distinct (ends.flatMap step)).filter isNew) done

/-- The ends of the matches of an expression behind what was found before. -/
def ends (subject : Subject) : Expression → Found → List Found
  | .nothing, found => [found]
  | .set isInside ranges, found =>
    match subject.text[found.stop]? with
    | some c =>
      if subject.holds isInside ranges c then [{ found with stop := found.stop + 1 }] else []
    | none => []
  | .edge kind, found => if subject.isEdge kind found.stop then [found] else []
  | .group number body, found =>
    (ends subject body found).map fun inner =>
      { inner with
        groups := (number, found.stop, inner.stop) :: inner.groups.filter (·.1 ≠ number) }
  | .inOrder first second, found =>
    distinct ((ends subject first found).flatMap (ends subject second))
  | .either first second, found => distinct (ends subject first found ++ ends subject second found)
  | .repeated body least most, found =>
    rounds (ends subject body) least most (subject.text.size + least + 2) 0 [found] []
  | .again number, found =>
    match found.groups.find? (·.1 = number) with
    | none => []
    | some (_, start, stop) =>
      let cased (c : Char) : Char := if subject.anyCase then c.toLower else c
      let wanted := ((subject.text.toList.take stop).drop start).map cased
      let present := ((subject.text.toList.drop found.stop).take wanted.length).map cased
      if present = wanted then [{ found with stop := found.stop + wanted.length }] else []

/-- The longest match that starts at a place. -/
def longestAt (subject : Subject) (expression : Expression) (start : Nat) : Option Found :=
  (ends subject expression ⟨start, []⟩).foldl (fun best found =>
    match best with
    | some old => if old.stop < found.stop then some found else best
    | none => some found) none

/-- The first match from a place on, and where it starts. `fuel` bounds the places. -/
def search (subject : Subject) (expression : Expression) : Nat → Nat → Option (Nat × Found)
  | 0, _ => none
  | fuel + 1, start =>
    if subject.text.size < start then none
    else match longestAt subject expression start with
      | some found => some (start, found)
      | none => search subject expression fuel (start + 1)

/-- The first match in a text from a place on. -/
def find? (expression : Expression) (subject : Subject) (start : Nat) : Option (Nat × Found) :=
  search subject expression (subject.text.size + 1) start

end Expression

end NfvCatalog.Shell.Utility
