import NfvCatalog.Pattern.Regex
import NfvCatalog.Pattern.Room

/-! # Weights of expressions

An expression is refused if the automaton that reads it byte by byte, forward or backward, would
take too much room. The room is found without building anything: states are counted as they would
be added.
-/

namespace NfvCatalog.Regex

open Pattern (Room)

/-! ## Ends -/

/-- Whether an expression only matches at the start of a text. -/
def holdsToStart : Regex → Bool
  | .anchor condition => condition = .start
  | .both first second => first.holdsToStart || (first.isZeroWidth && second.holdsToStart)
  | .either left right => left.holdsToStart && right.holdsToStart
  | .repeated inner least _ _ => least ≠ 0 && inner.holdsToStart
  | .group inner => inner.holdsToStart
  | _ => false

/-- Whether an expression only matches up to the end of a text. -/
def holdsToStop : Regex → Bool
  | .anchor condition => condition = .stop
  | .both first second => second.holdsToStop || (second.isZeroWidth && first.holdsToStop)
  | .either left right => left.holdsToStop && right.holdsToStop
  | .repeated inner least _ _ => least ≠ 0 && inner.holdsToStop
  | .group inner => inner.holdsToStop
  | _ => false

/-! ## Room -/

/-- The characters of a text. -/
def text? : Regex → Option (List Char)
  | .text chars => some chars
  | _ => none

/-- The room with a repetition of something that is added in a given way. Times that must be are
copies; further ones are copies that can be left, or one that is gone back to. -/
def addTimes (add : Room → Room) (isNeverEmpty : Bool) (least : Nat) (most : Option Nat)
    (room : Room) : Room :=
  let required := if least = 0 then room.addState else room.copies add least
  match least, most with
  | 0, some 1 => (add (room.addFork 2)).addState
  | 0, none =>
    if isNeverEmpty then add (room.addFork 2)
    else (((add room).addFork 2).addFork 2).addState
  | _, none => required.addFork 2
  | _, some most =>
    if most = least then required
    else required.addState.copies (fun room => add (room.addFork 2)) (most - least)

/-- The room with what joins an alternative to those before it. -/
def addJoint (count : Nat) (room : Room) : Room :=
  match count with
  | 0 => room
  | 1 => (room.addFork 2).addState
  | _ => room.addBranches 1

/-- The room with an expression behind a count of alternatives to it. -/
def addTo (backward : Bool) : Nat → Regex → Room → Room
  | count, .empty, room | count, .anchor _, room => addJoint count room.addState
  | count, .text chars, room =>
    addJoint count (room.addStates (chars.foldl (fun size c => size + c.utf8Size) 0))
  | count, .set members _, room => addJoint count (room.addSet backward members)
  | count, .both first second, room =>
    addJoint count
      (if backward then addTo backward 0 first (addTo backward 0 second room)
      else addTo backward 0 second (addTo backward 0 first room))
  | count, .either left right, room =>
    match if count = 0 then (Regex.either left right).branches.mapM text? else none with
    | some texts => room.addTexts backward texts
    | none => addTo backward (count + 1) right (addJoint count (addTo backward 0 left room))
  | count, .repeated inner least most _, room =>
    addJoint count
      (addTimes (addTo backward 0 inner) (inner.shortest?.any (· ≠ 0)) least most room)
  | count, .group inner, room =>
    addJoint count
      (if backward then addTo backward 0 inner room
      else (addTo backward 0 inner room.addState).addState)

/-- The room of finding an expression anywhere. What can stand anywhere has a loop over all bytes
before it; read forward, the ends of the whole match are kept too. -/
def searchRoom (backward : Bool) (expression : Regex) : Room :=
  let isHeld := if backward then expression.holdsToStop else expression.holdsToStart
  let start : Room := { }
  let start := if isHeld then start.addState else ((start.addFork 2).addState).addSteps 1
  if backward then (expression.addTo true 0 start).addState
  else ((expression.addTo false 0 start.addState).addState).addState

/-- From how many texts on alternatives that are texts are looked for without an automaton. -/
def manyTexts : Nat := 3000

/-- Whether an expression is a choice of many texts. -/
def isManyTexts (expression : Regex) : Bool :=
  manyTexts ≤ expression.branches.length && expression.branches.all (·.text?.isSome)

/-- Whether an expression takes too much room in either direction. -/
def isTooHeavy (expression : Regex) : Bool :=
  !expression.isManyTexts &&
    ((expression.searchRoom false).isTooLarge || (expression.searchRoom true).isTooLarge)

end NfvCatalog.Regex
