import NfvCatalog.Shell.Script
import NfvCatalog.Shell.Wildcard
import NfvCatalog.Text.Blank

/-! # Fields of a word

The pieces that a word's parts stand for are put together into fields. Text that replaced a
parameter without quotes is cut at separators; quoted text is kept whole, even when it is empty.
-/

namespace NfvCatalog.Shell

/-- A piece of an expanded word: text that is kept whole, text of the script, text that is cut at
separators, in which a NUL is one, or texts that are fields of their own. -/
inductive Piece where
  | solid (text : String)
  | plain (text : String)
  | loose (text : String)
  | each (texts : List String)
deriving DecidableEq, Repr, Inhabited

namespace Piece

/-- The glyphs of a piece that is not cut into fields. -/
def glyphs (joiner : String) : Piece → List Glyph
  | .solid text => Glyph.ofText true text
  | .plain text => Glyph.ofText false text
  | .loose text =>
    text.toList.flatMap fun c =>
      if c = '\x00' then Glyph.ofText false joiner else [⟨c, false⟩]
  | .each texts => Glyph.ofText true (Text.join joiner texts)

/-- The text of pieces that are not cut into fields. -/
def text (joiner : String) (pieces : List Piece) : String :=
  Glyph.text (pieces.flatMap (glyphs joiner))

/-- The pattern of pieces: what was quoted stands for itself. -/
def pattern (joiner : String) (pieces : List Piece) : Wildcard :=
  Wildcard.ofGlyphs (pieces.flatMap (glyphs joiner))

/-- A piece of the word that stands for a parameter: its text is cut, too. -/
def loosened : Piece → Piece
  | .plain text => .loose text
  | piece => piece

end Piece

/-- Fields that are done, and the one under way, if anything has come to it. -/
structure Fields where
  done : List (List Glyph) := []
  last : Option (List Glyph) := none
deriving DecidableEq, Repr, Inhabited

namespace Fields

/-- Put glyphs to the field under way. -/
def add (fields : Fields) (glyphs : List Glyph) : Fields :=
  { fields with last := some (fields.last.getD [] ++ glyphs) }

/-- End the field under way; it is a field even if nothing has come to it. -/
def close (fields : Fields) : Fields := ⟨fields.done ++ [fields.last.getD []], none⟩

/-- A separator that is a blank; any number of them separates once. -/
def isSoft (c : Char) : Bool := c = ' ' || c = '\t' || c = '\n' || c = '\x00'

/-- Put loose text to fields. `after` says whether a separator has come before, and whether it can
take a separator that is no blank to itself. -/
def addLoose (separators : List Char) : Fields → Option Bool → List Char → Fields
  | fields, _, [] => fields
  | fields, after, c :: rest =>
    if c ≠ '\x00' ∧ !separators.contains c then
      addLoose separators (fields.add [⟨c, false⟩]) none rest
    else match after, isSoft c with
      | some soft, true => addLoose separators fields (some soft) rest
      | some true, false => addLoose separators fields (some false) rest
      | _, soft =>
        if soft && fields.last.isNone then addLoose separators fields none rest
        else addLoose separators fields.close (some soft) rest

/-- Put a piece to fields. -/
def addPiece (separators : List Char) (fields : Fields) : Piece → Fields
  | .solid text => fields.add (Glyph.ofText true text)
  | .plain text => if text.isEmpty then fields else fields.add (Glyph.ofText false text)
  | .loose text => addLoose separators fields none text.toList
  | .each [] => fields
  | .each (first :: others) =>
    others.foldl (fun fields text => fields.close.add (Glyph.ofText true text))
      (fields.add (Glyph.ofText true first))

/-- The fields of pieces. -/
def ofPieces (separators : List Char) (pieces : List Piece) : List (List Glyph) :=
  let fields := pieces.foldl (addPiece separators) {}
  fields.done ++ fields.last.toList

end Fields

/-! ## Cutting texts -/

/-- A text without its shortest or longest front that fits a pattern. -/
def withoutFront (pattern : Wildcard) (longest : Bool) (text : String) : String :=
  let cs := text.toList
  let lengths := List.range (cs.length + 1)
  let lengths := if longest then lengths.reverse else lengths
  match lengths.find? fun n => pattern.fits (cs.take n) with
  | some n => String.ofList (cs.drop n)
  | none => text

/-- A text without its shortest or longest end that fits a pattern. -/
def withoutEnd (pattern : Wildcard) (longest : Bool) (text : String) : String :=
  let cs := text.toList
  let lengths := List.range (cs.length + 1)
  let lengths := if longest then lengths else lengths.reverse
  match lengths.find? fun n => pattern.fits (cs.drop n) with
  | some n => String.ofList (cs.take n)
  | none => text

/-! ## Home directories -/

/-- The home directories of the users that every machine has. -/
def homes : List (String × String) :=
  [("root", "/root"), ("daemon", "/usr/sbin"), ("bin", "/bin"), ("sys", "/dev"), ("sync", "/bin"),
    ("games", "/usr/games"), ("man", "/var/cache/man"), ("lp", "/var/spool/lpd"),
    ("mail", "/var/mail"), ("news", "/var/spool/news"), ("www-data", "/var/www"),
    ("backup", "/var/backups"), ("list", "/var/list"), ("nobody", "/nonexistent")]

/-- A plain text with a home directory in place of a tilde and a user's name at its start. `isWhole`
says whether the text ends where a name can end. -/
def withHome (own : Option String) (isWhole : Bool) (text : List Char) : Word :=
  match text with
  | '~' :: rest =>
    let user := rest.takeWhile (· ≠ '/')
    let behind := rest.drop user.length
    let home := if user.isEmpty then own else (homes.find? (·.1.toList = user)).map Prod.snd
    match home, behind.isEmpty && !isWhole with
    | some home, false => [.quoted home, .plain (String.ofList behind)]
    | _, _ => [.plain (String.ofList text)]
  | _ => [.plain (String.ofList text)]

/-- A word with home directories in place of tildes at its start. -/
def withHomes (own : Option String) : Word → Word
  | .plain text :: rest => withHome own rest.isEmpty text.toList ++ rest
  | word => word

/-- The texts between colons with home directories in place of tildes at their starts. -/
def homesBetweenColons (own : Option String) (isWhole : Bool) : List (List Char) → Word
  | [] => []
  | [last] => withHome own isWhole last
  | text :: rest =>
    withHome own true text ++ .plain ":" :: homesBetweenColons own isWhole rest

/-- A value with home directories in place of tildes at its start and behind its colons. -/
def withHomesInValue (own : Option String) : Bool → Word → Word
  | _, [] => []
  | atStart, .plain text :: rest =>
    let behind := withHomesInValue own false rest
    match Text.splitChars ':' text.toList with
    | first :: others =>
      let start : Word :=
        if atStart then withHome own (rest.isEmpty || !others.isEmpty) first
        else [.plain (String.ofList first)]
      let further : Word :=
        if others.isEmpty then [] else .plain ":" :: homesBetweenColons own rest.isEmpty others
      start ++ further ++ behind
    | [] => behind
  | _, part :: rest => part :: withHomesInValue own false rest

end NfvCatalog.Shell
