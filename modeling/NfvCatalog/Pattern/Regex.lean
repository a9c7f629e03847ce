import NfvCatalog.Text.Property

/-! # Regular expressions

What an expression matches, and the form in which expressions are put together.
-/

/-! ## Expressions and what they match

An expression holds between two places of a text. Whether it does is found one character at a time:
what is left of an expression after a character is a list of expressions, and a text matches if what
is left at its end may be empty. Conditions on places look at the characters at both sides.
-/

namespace NfvCatalog

open Text (CharSet)

/-- A place of a text: the characters before and after it. At an end of the text one is missing. -/
structure TextPlace where
  before : Option Char
  after : Option Char
deriving DecidableEq, Repr, Inhabited

/-- A condition on words at a place. The half conditions look at one side only. -/
inductive WordEdge where
  | edge
  | noEdge
  | start
  | stop
  | startHalf
  | stopHalf
deriving DecidableEq, Repr, Inhabited

/-- A condition on a place of a text. Lines end at a line feed, or also at a carriage return; words
are those of ASCII or of all scripts. -/
inductive Anchor where
  | start
  | stop
  | lineStart (orReturn : Bool)
  | lineStop (orReturn : Bool)
  | word (kind : WordEdge) (onlyAscii : Bool)
deriving DecidableEq, Repr, Inhabited

/-- A regular expression. A group is its body; it only takes more room. So it is with the marks of
sets that are written in bytes, and of repetitions that take as many times as they can: they tell
expressions apart that match the same. -/
inductive Regex where
  | empty
  | text (chars : List Char)
  | set (members : CharSet) (inBytes : Bool)
  | anchor (condition : Anchor)
  | both (first second : Regex)
  | either (left right : Regex)
  | repeated (inner : Regex) (least : Nat) (most : Option Nat) (greedy : Bool)
  | group (inner : Regex)
deriving DecidableEq, Repr, Inhabited

namespace Anchor

/-- The characters of words in ASCII. -/
def asciiWord : CharSet := Text.Property.word.inter (.range 0 0x7F)

/-- Whether a condition on words holds, given whether the characters at both sides belong to
words. -/
def edgeHolds (before after : Bool) : WordEdge → Bool
  | .edge => before != after
  | .noEdge => before == after
  | .start => !before && after
  | .stop => before && !after
  | .startHalf => !before
  | .stopHalf => !after

/-- Whether a condition holds at a place. A line feed behind a carriage return ends the same
line. -/
def holds (condition : Anchor) (place : TextPlace) : Bool :=
  let before := place.before
  let after := place.after
  match condition with
  | .start => before.isNone
  | .stop => after.isNone
  | .lineStart orReturn =>
    before.isNone || before = some '\n' ||
      (orReturn && before = some '\r' && after ≠ some '\n')
  | .lineStop orReturn =>
    after.isNone || (orReturn && after = some '\r') ||
      (after = some '\n' && !(orReturn && before = some '\r'))
  | .word kind onlyAscii =>
    let word := if onlyAscii then asciiWord else Text.Property.word
    edgeHolds (before.any word.has) (after.any word.has) kind

end Anchor

namespace Regex

/-- One expression after another. -/
def followedBy (first second : Regex) : Regex :=
  match first, second with
  | .empty, _ => second
  | _, .empty => first
  | _, _ => .both first second

/-- Whether an expression matches the empty text at a place. -/
def matchesEmpty (place : TextPlace) : Regex → Bool
  | .empty => true
  | .text chars => chars.isEmpty
  | .set _ _ => false
  | .anchor condition => condition.holds place
  | .both first second => first.matchesEmpty place && second.matchesEmpty place
  | .either left right => left.matchesEmpty place || right.matchesEmpty place
  | .repeated inner least _ _ => least = 0 || inner.matchesEmpty place
  | .group inner => inner.matchesEmpty place

/-- What may be left of an expression after a character that follows a place. Of a repetition, one
time is used up; if it can be skipped at the place, the times that must follow can be too. -/
def afterChar (place : TextPlace) (c : Char) : Regex → List Regex
  | .empty | .anchor _ | .text [] => []
  | .text [last] => if c = last then [.empty] else []
  | .text (first :: rest) => if c = first then [.text rest] else []
  | .set members _ => if members.has c then [.empty] else []
  | .both first second =>
    let rest := (first.afterChar place c).map (followedBy · second)
    if first.matchesEmpty place then rest ++ second.afterChar place c else rest
  | .either left right => left.afterChar place c ++ right.afterChar place c
  | .repeated inner least most greedy =>
    let left := if inner.matchesEmpty place then 0 else least - 1
    let more : Regex := match most with
      | some most => if most ≤ 1 then .empty else .repeated inner left (some (most - 1)) greedy
      | none => .repeated inner left none greedy
    if most = some 0 then [] else (inner.afterChar place c).map (followedBy · more)
  | .group inner => inner.afterChar place c

/-- Whether one of the expressions under way, or the whole one from some place on, matches a part of
the text that is left. -/
def search (whole : Regex) (before : Option Char) (underWay : List Regex) : List Char → Bool
  | [] => (whole :: underWay).any (matchesEmpty ⟨before, none⟩)
  | c :: rest =>
    let place : TextPlace := ⟨before, some c⟩
    let live := whole :: underWay
    live.any (matchesEmpty place) ||
      search whole (some c) (live.flatMap (afterChar place c)).eraseDups rest

/-- Whether an expression matches somewhere in a text. -/
def matchesIn (expression : Regex) (text : String) : Bool :=
  expression.search none [] text.toList

end Regex

end NfvCatalog

/-! ## Composed expressions

Expressions are put together in a simple form, which decides how much room they take. Texts that
follow each other are one text. Alternatives that are all single characters, or all sets, are one
set, and the parts that alternatives have in common at their beginning stand before them once.
-/

namespace NfvCatalog.Regex

open Text (CharSet)

/-! ### Lengths -/

/-- Whether an expression can only match the empty text. -/
def isZeroWidth : Regex → Bool
  | .empty | .anchor _ => true
  | .text _ | .set _ _ => false
  | .both first second => first.isZeroWidth && second.isZeroWidth
  | .either left right => left.isZeroWidth && right.isZeroWidth
  | .repeated inner _ _ _ => inner.isZeroWidth
  | .group inner => inner.isZeroWidth

/-- The length of the shortest text that an expression matches, none where a part of it, even one
that could be left out, matches nothing. -/
def shortest? : Regex → Option Nat
  | .empty | .anchor _ => some 0
  | .text chars => some chars.length
  | .set members _ => if members.isEmpty then none else some 1
  | .both first second => do return (← first.shortest?) + (← second.shortest?)
  | .either left right => do return min (← left.shortest?) (← right.shortest?)
  | .repeated inner least _ _ => inner.shortest?.map (least * ·)
  | .group inner => inner.shortest?

/-! ### Sets, sequences and repetitions -/

/-- The expression of a set. With a single member it is a text. -/
def ofSet (members : CharSet) (inBytes : Bool) : Regex :=
  match members.only? with
  | some c => .text [c]
  | none => .set members (inBytes && !members.isEmpty)

/-- One expression before another, as a chain of parts in which texts do not follow each other. -/
def before : Regex → Regex → Regex
  | .empty, rest => rest
  | .both first second, rest => first.before (second.before rest)
  | first, .empty => first
  | .text left, .text right => .text (left ++ right)
  | .text left, .both (.text right) rest => .both (.text (left ++ right)) rest
  | first, rest => .both first rest

/-- Some expressions one after another. -/
def sequence (parts : List Regex) : Regex := parts.foldr before .empty

/-- An expression some number of times. What can only match the empty text need not be matched more
than once. -/
def times (inner : Regex) (least : Nat) (most : Option Nat) (greedy : Bool) : Regex :=
  let (least, most) :=
    if inner.isZeroWidth then (min least 1, some (min (most.getD 1) 1)) else (least, most)
  if most = some 0 then .empty
  else if least = 1 ∧ most = some 1 then inner
  else .repeated inner least most greedy

/-! ### Alternatives -/

/-- The parts of a chain. -/
def parts : Regex → List Regex
  | .both first second => first :: second.parts
  | part => [part]

/-- The alternatives of an expression. -/
def branches : Regex → List Regex
  | .either left right => left :: right.branches
  | branch => [branch]

/-- The character of a text of one. -/
def char? : Regex → Option Char
  | .text [c] => some c
  | _ => none

/-- The members of a set. -/
def members? : Regex → Option CharSet
  | .set members _ => some members
  | _ => none

/-- Whether an expression has a group. No two groups count as the same. -/
def hasGroup : Regex → Bool
  | .group _ => true
  | .both first second => first.hasGroup || second.hasGroup
  | .either left right => left.hasGroup || right.hasGroup
  | .repeated inner _ _ _ => inner.hasGroup
  | _ => false

/-- The chain of alternatives. -/
def alternatives : List Regex → Regex
  | [] => .set .empty false
  | [last] => last
  | first :: rest => .either first (alternatives rest)

/-- Alternatives as they stand, or as one set. -/
def merged (branches : List Regex) : Regex :=
  if branches.length ≤ 1 then alternatives branches
  else match branches.mapM char?, branches.mapM members? with
    | some chars, _ => ofSet (.ofCodes (chars.map Char.toNat)) false
    | none, some sets => ofSet (.unions sets) false
    | none, none => alternatives branches

/-- The beginning that two lists of parts have in common. -/
def commonStart : List Regex → List Regex → List Regex
  | left :: lefts, right :: rights =>
    if left = right ∧ ¬ left.hasGroup then left :: commonStart lefts rights else []
  | _, _ => []

/-- The parts at the beginning of all alternatives, if each of them has several parts. -/
def sharedStart (branches : List Regex) : List Regex :=
  match branches.map parts with
  | [] => []
  | first :: rest =>
    if (first :: rest).all (2 ≤ ·.length) then rest.foldl commonStart first else []

/-- One of some alternatives. -/
def choice (alternatives : List Regex) : Regex :=
  let branches := alternatives.flatMap branches
  match sharedStart branches with
  | [] => merged branches
  | shared =>
    let rests := branches.map fun branch => sequence (branch.parts.drop shared.length)
    sequence (shared ++ [merged (rests.flatMap Regex.branches)])

end NfvCatalog.Regex
