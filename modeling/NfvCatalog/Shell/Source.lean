import NfvCatalog.Shell.Script

/-! # The text of a script while it is read

A text with the number of the line that reading has come to. Texts that were given to a command as
its input are taken out ahead; their lines count when the end of the command's line is passed. A
line break behind a backslash hides.
-/

namespace NfvCatalog.Shell

/-- The text of a script from where reading has come to. `ahead` counts the lines that were taken
out of it. -/
structure Source where
  text : List Char
  line : Nat := 1
  ahead : Nat := 0
  /-- The names that were replaced by longer texts, each with the length of what came behind it. -/
  renamed : List (String × Nat) := []
deriving Inhabited

namespace Source

/-- Go on behind a line break. -/
def onNextLine (source : Source) (text : List Char) : Source :=
  { source with text, line := source.line + 1 + source.ahead, ahead := 0 }

/-- Go on behind the next character. -/
def tail (source : Source) : Source :=
  match source.text with
  | [] => source
  | '\n' :: rest => source.onNextLine rest
  | _ :: rest => { source with text := rest }

/-- Go on behind so many characters. -/
def drop : Nat → Source → Source
  | 0, source => source
  | count + 1, source => drop count source.tail

/-- The text behind hidden line breaks, and their number. -/
def hiddenBreaks : List Char → Nat × List Char
  | '\\' :: '\n' :: rest => ((hiddenBreaks rest).1 + 1, (hiddenBreaks rest).2)
  | text => (0, text)

/-- Go on behind hidden line breaks. -/
def shown (source : Source) : Source :=
  match hiddenBreaks source.text with
  | (0, _) => source
  | (count, text) => { source with text, line := source.line + count + source.ahead, ahead := 0 }

/-- The next character that is not hidden. -/
def head? (source : Source) : Option Char := source.shown.text.head?

/-- Go on behind a given character, if it is the next one. -/
def after? (source : Source) (c : Char) : Option Source :=
  let source := source.shown
  if source.text.head? = some c then some source.tail else none

/-- Go on behind blanks and a comment; `fuel` bounds them. -/
def skipBlanks : Nat → Source → Source
  | 0, source => source
  | fuel + 1, source =>
    let source := source.shown
    match source.text with
    | ' ' :: _ | '\t' :: _ => skipBlanks fuel source.tail
    | '#' :: rest => { source with text := rest.dropWhile (· ≠ '\n') }
    | _ => source

/-- Go on behind blanks and a comment. -/
def words (source : Source) : Source := skipBlanks (source.text.length + 1) source

/-- The longest run of characters of a kind, hidden line breaks left out; `fuel` bounds it. -/
def takeWhile (kind : Char → Bool) : Nat → Source → List Char × Source
  | 0, source => ([], source)
  | fuel + 1, source =>
    let source := source.shown
    match source.text with
    | c :: _ =>
      if kind c then
        let (run, rest) := takeWhile kind fuel source.tail
        (c :: run, rest)
      else ([], source)
    | [] => ([], source)

/-- The name at the start of a text. -/
def name (source : Source) : String × Source :=
  let (run, rest) := takeWhile isNameChar source.text.length source
  (String.ofList run, rest)

/-! ## Texts that are given as input -/

/-- The text up to the end of the line that a command stands in, and the text of the lines behind
it. Line breaks in quotes do not end a line. `quote` is the quote that is open, and `fresh` says
whether a comment can start. -/
def lineAndRest : Option Char → Bool → List Char → List Char × List Char
  | _, _, [] => ([], [])
  | none, _, '\n' :: rest => ([], rest)
  | none, true, '#' :: rest =>
    ('#' :: rest.takeWhile (· ≠ '\n'), (rest.dropWhile (· ≠ '\n')).drop 1)
  | some '\'', _, c :: rest =>
    let (line, rest) := lineAndRest (if c = '\'' then none else some '\'') false rest
    (c :: line, rest)
  | quote, _, '\\' :: c :: rest =>
    let (line, rest) := lineAndRest quote false rest
    ('\\' :: c :: line, rest)
  | some _, _, c :: rest =>
    let (line, rest) := lineAndRest (if c = '"' then none else some '"') false rest
    (c :: line, rest)
  | none, _, c :: rest =>
    let quote := if c = '"' ∨ c = '\'' then some c else none
    let (line, rest) := lineAndRest quote (c = ' ' || c = '\t' || c = ';') rest
    (c :: line, rest)

/-- The lines up to one that is the end mark, their number with that line, and the text after it.
Leading tabs may be dropped; a line may go on behind a backslash at its end, and what it goes on
with is no end mark. `fuel` bounds the lines. -/
def linesToMark (dropTabs joins : Bool) (mark : List Char) :
    Nat → Bool → List Char → List Char × Nat × List Char
  | 0, _, text => ([], 0, text)
  | fuel + 1, goesOn, text =>
    let line := text.takeWhile (· ≠ '\n')
    let rest := (text.drop line.length).drop 1
    let shown := if dropTabs && !goesOn then line.dropWhile (· = '\t') else line
    if text.isEmpty then ([], 0, [])
    else if !goesOn && shown = mark then ([], 1, rest)
    else
      let slashes := (line.reverse.takeWhile (· = '\\')).length
      let (lines, count, after) := linesToMark dropTabs joins mark fuel
        (joins && slashes % 2 = 1) rest
      let ended := if line.length < text.length then shown ++ ['\n'] else shown
      (ended ++ lines, count + 1, after)

/-- The text that is given as input behind the line under way, up to an end mark, and the text
without it. -/
def inputText (source : Source) (dropTabs joins : Bool) (mark : String) : String × Source :=
  let (line, rest) := lineAndRest none true source.text
  let (body, count, after) := linesToMark dropTabs joins mark.toList (rest.length + 1) false rest
  if line.length < source.text.length then
    let text := line ++ '\n' :: after
    (String.ofList body, { source with text, ahead := source.ahead + count })
  else ("", source)

end Source

end NfvCatalog.Shell
