import NfvCatalog.Address.DomainTable
import NfvCatalog.Address.Punycode
import NfvCatalog.Text.Blank
import NfvCatalog.Text.Composition
import NfvCatalog.Text.Direction

/-! # Domain names

A domain name is kept in ASCII. Its characters are replaced by those of the normal form, and labels
beyond ASCII are written with a mark. Such a label has to be one that the normal form leaves alone:
composed, without a mark on nothing, with joining controls only where they show, and in a name with
letters from right to left without mixed directions.
-/

namespace NfvCatalog.Address.DomainName

open NfvCatalog.Text (CharSet Direction)

/-- What starts the ASCII form of a label beyond ASCII. -/
def mark : List Char := "xn--".toList

/-- A character of ASCII that a domain name may not hold. -/
def isForbidden (code : Nat) : Bool :=
  code ≤ 0x20 || code = 0x7F || ("%#/:<>?@[\\]^|".toList.map Char.toNat).contains code

/-- Whether a code belongs to ASCII. -/
def isAscii (code : Nat) : Bool := code < 0x80

/-! ## Joining controls -/

/-- The control that keeps letters apart. -/
def nonJoiner : Nat := 0x200C

/-- The control that joins letters. -/
def joiner : Nat := 0x200D

/-- The combining class of the signs that bind the letters around them. -/
def binderClass : Nat := 9

/-- Whether the nearest letter that is not transparent to joins is one of a set. -/
def meets (set : CharSet) (codes : List Nat) : Bool :=
  ((codes.dropWhile Text.Joining.transparent.hasCode).head?).any set.hasCode

/-- Whether a control may stand between the codes before it, in reverse, and those after it: behind
a sign that binds, or, if it keeps apart, between letters that would join. -/
def mayStand (control : Nat) (before after : List Nat) : Bool :=
  before.head?.any (Text.Composition.combiningClass · = binderClass) ||
    (control = nonJoiner &&
      meets (Text.Joining.bothSides.union Text.Joining.afterOnly) before &&
      meets (Text.Joining.bothSides.union Text.Joining.beforeOnly) after)

/-- Whether every joining control of a label may stand where it does; `before` holds the codes
already passed, in reverse. -/
def joinsWell (before : List Nat) : List Nat → Bool
  | [] => true
  | code :: rest =>
    ((code ≠ nonJoiner && code ≠ joiner) || mayStand code before rest) &&
      joinsWell (code :: before) rest

/-! ## Directions -/

/-- The directions that make a name one with letters from right to left. -/
def isRightward (direction : Direction) : Bool :=
  direction = .rightToLeft || direction = .arabic || direction = .arabicNumber

/-- The directions that may stand in labels of either kind. -/
def common : List Direction :=
  [.europeanNumber, .numberSign, .numberSeparator, .numberTerminator, .otherNeutral,
    .boundaryNeutral, .nonspacing]

/-- Whether the last direction that is not a mark is one of some. -/
def endsIn (allowed : List Direction) (directions : List Direction) : Bool :=
  ((directions.reverse.dropWhile (· = .nonspacing)).head?).any allowed.contains

/-- Whether a label keeps to one direction, that of its first letter. -/
def keepsDirection (directions : List Direction) : Bool :=
  match directions with
  | [] => true
  | .leftToRight :: _ =>
    directions.all (.leftToRight :: common).contains &&
      endsIn [.leftToRight, .europeanNumber] directions
  | .rightToLeft :: _ | .arabic :: _ =>
    directions.all (.rightToLeft :: .arabic :: .arabicNumber :: common).contains &&
      endsIn [.rightToLeft, .arabic, .europeanNumber, .arabicNumber] directions &&
      !(directions.contains .europeanNumber && directions.contains .arabicNumber)
  | _ => false

/-! ## Labels -/

/-- Whether a label beyond ASCII is in the normal form and well formed. -/
def isWellFormed (label : List Nat) : Bool :=
  !(mark.map Char.toNat).isPrefixOf label &&
    !label.head?.any Text.Latest.mark.hasCode &&
    joinsWell [] label

/-- The codes of a label in the normal form, read from its ASCII form if it is one. -/
def labelCodes? (label : List Nat) : Option (List Nat) :=
  if (mark.map Char.toNat).isPrefixOf label then
    (Punycode.decode? ((label.drop mark.length).map Char.ofNat)).filter fun codes =>
      !codes.all isAscii && codes.all DomainTable.stays &&
        Text.Composition.composed codes = codes && isWellFormed codes
  else if label.all isAscii || isWellFormed label then some label
  else none

/-- The ASCII form of a label. -/
def labelText (label : List Nat) : List Char :=
  let text := label.map Char.ofNat
  if label.all isAscii then text else mark ++ Punycode.encode text

/-! ## Names -/

/-- The codes of a name in the normal form. -/
def normalized? (name : List Char) : Option (List Nat) :=
  (name.mapM fun c => DomainTable.mapped? c.toNat).map fun codes =>
    Text.Composition.composed codes.flatten

/-- The labels of a name, between dots. -/
def labels (codes : List Nat) : List (List Nat) :=
  (Text.splitChars '.' (codes.map Char.ofNat)).map (·.map Char.toNat)

/-- Whether the labels of a name agree in direction, if any letter goes from right to left. -/
def agrees (labels : List (List Nat)) : Bool :=
  let directions := labels.map (·.map Direction.ofCode)
  !directions.any (·.any isRightward) || directions.all keepsDirection

/-- The ASCII form of a domain name, none if it has no normal form. -/
def ascii? (name : List Char) : Option (List Char) := do
  let codes ← normalized? name
  if codes.any isForbidden then none
  let labels ← (labels codes).mapM labelCodes?
  if !agrees labels then none
  return List.intercalate ['.'] (labels.map labelText)

end NfvCatalog.Address.DomainName
