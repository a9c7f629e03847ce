/-! # Wildcards

Patterns for whole names: any character, any run of characters, sets of characters, and any run of
path components.
-/

/-! ## Tails of a text

What is left of a text while a pattern is matched with it is one of its tails. A list of them,
longest first, stands for all the ways to match the parts so far, so that each part is tried once at
a place.
-/

namespace NfvCatalog.Text

/-- A text and all its tails, longest first. -/
def tails : List Char → List (List Char)
  | [] => [[]]
  | c :: rest => (c :: rest) :: tails rest

/-- What is left of tails behind one character of a class. -/
def afterOne (holds : Char → Bool) (before : List (List Char)) : List (List Char) :=
  before.filterMap fun
    | c :: rest => if holds c then some rest else none
    | [] => none

/-- What is left of tails behind any run of characters. -/
def afterRun (before : List (List Char)) : List (List Char) := (before.head?.map tails).getD []

end NfvCatalog.Text

/-! ## Patterns -/

namespace NfvCatalog

/-- A part of a pattern. -/
inductive GlobPart where
  | char (c : Char)
  | anyChar
  | anyRun
  | anyComponents
  | oneOf (ranges : List (Char × Char))
  | noneOf (ranges : List (Char × Char))
deriving DecidableEq, Repr, Inhabited

/-- Why a text is no pattern. -/
inductive GlobError where
  | tooManyStars
  | partOfComponent
  | badRange
deriving DecidableEq, Repr, Inhabited

/-- The wording of a pattern error. -/
def GlobError.message : GlobError → String
  | .tooManyStars => "wildcards are either regular `*` or recursive `**`"
  | .partOfComponent => "recursive wildcards must form a single path component"
  | .badRange => "invalid range pattern"

/-- A pattern. -/
abbrev Glob := List GlobPart

namespace Glob

/-! ### Reading -/

/-- The ranges between brackets; a hyphen between two characters joins them. -/
def ranges : List Char → List (Char × Char)
  | low :: '-' :: high :: rest => (low, high) :: ranges rest
  | c :: rest => (c, c) :: ranges rest
  | [] => []

/-- The inside of brackets, which has at least one character, and the text after them. -/
def bracket? : List Char → Option (List Char × List Char)
  | first :: rest =>
    let inside := rest.takeWhile (· ≠ ']')
    match rest.drop inside.length with
    | ']' :: rest => some (first :: inside, rest)
    | _ => none
  | [] => none

/-- Read a pattern. `atStart` says whether a path component starts here; `fuel` bounds the parts. -/
def parts : Nat → Bool → List Char → Except GlobError Glob
  | 0, _, _ => .ok []
  | fuel + 1, atStart, cs =>
    match cs with
    | [] => .ok []
    | '*' :: '*' :: '*' :: _ => .error .tooManyStars
    | '*' :: '*' :: rest =>
      if !atStart then .error .partOfComponent
      else match rest with
        | [] => .ok [.anyComponents]
        | '/' :: rest => (parts fuel true rest).map (.anyComponents :: ·)
        | _ => .error .partOfComponent
    | '*' :: rest => (parts fuel false rest).map (.anyRun :: ·)
    | '?' :: rest => (parts fuel false rest).map (.anyChar :: ·)
    | '[' :: '!' :: rest =>
      match bracket? rest with
      | some (inside, rest) => (parts fuel false rest).map (.noneOf (ranges inside) :: ·)
      | none => .error .badRange
    | '[' :: rest =>
      match bracket? rest with
      | some (inside, rest) => (parts fuel false rest).map (.oneOf (ranges inside) :: ·)
      | none => .error .badRange
    | c :: rest => (parts fuel (c = '/') rest).map (.char c :: ·)

/-- Read a pattern. -/
def parse (text : String) : Except GlobError Glob :=
  parts (text.length + 1) true text.toList

/-! ### Matching -/

/-- The tails that follow a slash, and the empty one. -/
def tailsAfterSlash : List Char → List (List Char)
  | [] => [[]]
  | c :: rest => if c = '/' then rest :: tailsAfterSlash rest else tailsAfterSlash rest

/-- Whether a character lies in one of the ranges. -/
def inRanges (ranges : List (Char × Char)) (c : Char) : Bool :=
  ranges.any fun range => range.1 ≤ c && c ≤ range.2

/-- What is left of tails behind any run of path components. -/
def afterComponents : List (List Char) → List (List Char)
  | [] => []
  | longest :: others =>
    let behind := tailsAfterSlash longest
    (Text.tails longest).filter fun cs => (longest :: others).contains cs || behind.contains cs

/-- What is left of tails behind a part. -/
def afterPart (before : List (List Char)) : GlobPart → List (List Char)
  | .char c => Text.afterOne (c = ·) before
  | .anyChar => Text.afterOne (fun _ => true) before
  | .anyRun => Text.afterRun before
  | .anyComponents => afterComponents before
  | .oneOf ranges => Text.afterOne (inRanges ranges) before
  | .noneOf ranges => Text.afterOne (!inRanges ranges ·) before

/-- Whether a pattern matches the whole of a name: nothing may be left of it. -/
def matchesName (pattern : Glob) (name : String) : Bool :=
  (pattern.foldl afterPart [name.toList]).contains []

end Glob

end NfvCatalog
