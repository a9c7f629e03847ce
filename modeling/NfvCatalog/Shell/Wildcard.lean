import NfvCatalog.Pattern.Glob

/-! # Patterns of scripts

A pattern is matched with the whole of a text. What is quoted in it stands for itself. A bracket
that is never closed stands for itself, too.
-/

namespace NfvCatalog.Shell

/-- A character of an expanded word, and whether it was quoted. -/
structure Glyph where
  char : Char
  isQuoted : Bool
deriving DecidableEq, Repr, Inhabited

namespace Glyph

/-- The glyphs of a text. -/
def ofText (isQuoted : Bool) (text : String) : List Glyph := text.toList.map (Glyph.mk · isQuoted)

/-- The text of glyphs. -/
def text (glyphs : List Glyph) : String := String.ofList (glyphs.map Glyph.char)

/-- Whether a glyph is a character that is not quoted. -/
def isPlain (c : Char) (glyph : Glyph) : Bool := glyph.char = c && !glyph.isQuoted

end Glyph

/-- A part of a pattern: a character, any character, any run of characters, or a character inside or
outside of some ranges. -/
inductive WildPart where
  | char (c : Char)
  | anyChar
  | anyRun
  | among (isInside : Bool) (ranges : List (Char × Char))
deriving DecidableEq, Repr, Inhabited

/-- A pattern. -/
abbrev Wildcard := List WildPart

namespace Wildcard

/-! ## Reading -/

/-- The ranges of a class of characters that has a name. -/
def classes : List (String × List (Char × Char)) :=
  [("alpha", [('A', 'Z'), ('a', 'z')]), ("digit", [('0', '9')]),
    ("alnum", [('0', '9'), ('A', 'Z'), ('a', 'z')]), ("upper", [('A', 'Z')]),
    ("lower", [('a', 'z')]), ("space", [('\t', '\r'), (' ', ' ')]),
    ("blank", [('\t', '\t'), (' ', ' ')]),
    ("punct", [('!', '/'), (':', '@'), ('[', '\x60'), ('\x7b', '~')]),
    ("print", [(' ', '~')]), ("graph", [('!', '~')]),
    ("cntrl", [('\x00', '\x1f'), ('\x7f', '\x7f')]),
    ("xdigit", [('0', '9'), ('A', 'F'), ('a', 'f')])]

/-- The ranges of the class that a text names in brackets and colons, and the text behind it. -/
def class? (glyphs : List Glyph) : Option (List (Char × Char) × List Glyph) :=
  classes.findSome? fun (name, ranges) =>
    let shown := Glyph.ofText false (":" ++ name ++ ":]")
    if shown.isPrefixOf glyphs then some (ranges, glyphs.drop shown.length) else none

/-- The character at the start of a text, and the text behind it. A backslash that is not quoted
stands for what follows it. -/
def character? : List Glyph → Option (Char × List Glyph)
  | ⟨'\\', false⟩ :: glyph :: rest => some (glyph.char, rest)
  | glyph :: rest => some (glyph.char, rest)
  | [] => none

/-- The ranges up to the end of a bracket, which is not its first character, and the text behind
it. `fuel` bounds the ranges. -/
def ranges? : Nat → Bool → List Glyph → Option (List (Char × Char) × List Glyph)
  | 0, _, _ => none
  | fuel + 1, isFirst, glyphs =>
    match glyphs with
    | [] => none
    | glyph :: rest =>
      if glyph.isPlain ']' && !isFirst then some ([], rest)
      else match if glyph.isPlain '[' then class? rest else none with
        | some (ranges, rest) => (ranges? fuel false rest).map fun (others, rest) =>
            (ranges ++ others, rest)
        | none => do
          let (low, rest) ← character? glyphs
          match rest with
          | ⟨'-', false⟩ :: high :: tail =>
            if high.isPlain ']' then
              let (others, rest) ← ranges? fuel false rest
              return ((low, low) :: others, rest)
            else
              let (high, tail) ← character? (high :: tail)
              let (others, rest) ← ranges? fuel false tail
              return ((low, high) :: others, rest)
          | _ =>
            let (others, rest) ← ranges? fuel false rest
            return ((low, low) :: others, rest)

/-- The bracket behind its opening sign, and the text behind it. -/
def bracket? (glyphs : List Glyph) : Option (WildPart × List Glyph) :=
  let isInside := !(glyphs.head?.any fun glyph => glyph.isPlain '!' || glyph.isPlain '^')
  let inside := if isInside then glyphs else glyphs.drop 1
  (ranges? (inside.length + 1) true inside).map fun (ranges, rest) => (.among isInside ranges, rest)

/-- Read a pattern; `fuel` bounds its parts. -/
def parts : Nat → List Glyph → Wildcard
  | 0, _ => []
  | fuel + 1, glyphs =>
    match glyphs with
    | [] => []
    | ⟨'*', false⟩ :: rest => .anyRun :: parts fuel rest
    | ⟨'?', false⟩ :: rest => .anyChar :: parts fuel rest
    | ⟨'[', false⟩ :: rest =>
      match bracket? rest with
      | some (part, rest) => part :: parts fuel rest
      | none => .char '[' :: parts fuel rest
    | _ =>
      match character? glyphs with
      | some (c, rest) => .char c :: parts fuel rest
      | none => []

/-- The pattern of glyphs. -/
def ofGlyphs (glyphs : List Glyph) : Wildcard := parts (glyphs.length + 1) glyphs

/-- Whether a pattern stands for more than one text. -/
def isOpen (pattern : Wildcard) : Bool :=
  pattern.any fun
    | .char _ => false
    | _ => true

/-! ## Matching -/

/-- What is left of tails behind a part. -/
def afterPart (before : List (List Char)) : WildPart → List (List Char)
  | .char c => Text.afterOne (c = ·) before
  | .anyChar => Text.afterOne (fun _ => true) before
  | .anyRun => Text.afterRun before
  | .among isInside ranges =>
    Text.afterOne (fun c => (ranges.any fun range => range.1 ≤ c && c ≤ range.2) = isInside) before

/-- Whether a pattern matches the whole of a text: nothing may be left of it. -/
def fits (pattern : Wildcard) (cs : List Char) : Bool :=
  (pattern.foldl afterPart [cs]).contains []

end Wildcard

end NfvCatalog.Shell
