import NfvCatalog.Descriptor.Issue
import NfvCatalog.Files.Path
import NfvCatalog.Number.Digits
import NfvCatalog.Text.Blank
import NfvCatalog.Text.Category

/-! # Findings in source files

A finding names its place, a code and a severity. Findings are ordered by path, line, column and
code; a finding without a column comes before those of its line that have one.
-/

namespace NfvCatalog

/-- A finding in a file. -/
structure Diagnostic where
  path : String
  line : Nat
  column : Option Nat := none
  code : String
  severity : Severity
  message : String
deriving DecidableEq, Repr, Inhabited

namespace Diagnostic

/-- A finding on one line of text. -/
def text (d : Diagnostic) : String :=
  let place := match d.column with
    | some column => toString d.line ++ ":" ++ toString column
    | none => toString d.line
  d.path ++ ":" ++ place ++ ": " ++ d.code ++ " " ++ d.message

/-- The rank of a column: none comes first. -/
def columnRank (column : Option Nat) : Nat :=
  match column with
  | some column => column + 1
  | none => 0

/-- Order of findings by path, line, column and code. -/
def compare (left right : Diagnostic) : Ordering :=
  (Path.compare left.path right.path).then <|
    (Ord.compare left.line right.line).then <|
      (Ord.compare (columnRank left.column) (columnRank right.column)).then <|
        Ord.compare left.code right.code

/-- Whether a finding may come before another. -/
def le (left right : Diagnostic) : Bool := compare left right ≠ .gt

/-- A finding about a whole file. -/
def ofFile (path code : String) (severity : Severity) (message : String) : Diagnostic :=
  { path, line := 1, code, severity, message }

end Diagnostic

end NfvCatalog

/-! ## Checks of source text

Four checks of the lines of a text: tabs in the indentation, blanks at the end, too many characters,
and a last line that is not ended. A carriage return at the end of a line belongs to the line end.
-/

namespace NfvCatalog.Lint

/-- A blank that counts as indentation or trailing space. -/
def isTabOrSpace (c : Char) : Bool := c = ' ' || c = '\t'

/-- What a check finds in a text, apart from the path. -/
structure TextFinding where
  line : Nat
  column : Nat
  code : String
  severity : Severity
  message : String
deriving DecidableEq, Repr, Inhabited

/-- The indentation holds a tab. -/
def tabFindings (number : Nat) (line : List Char) : List TextFinding :=
  if (line.takeWhile isTabOrSpace).contains '\t' then
    [⟨number, 1, "W191", .warning, "indentation contains tabs"⟩]
  else []

/-- The line without the blanks at its end. -/
def withoutTrailing (line : List Char) : List Char :=
  (line.reverse.dropWhile isTabOrSpace).reverse

/-- The line ends in a blank. -/
def trailingFindings (number : Nat) (line : List Char) : List TextFinding :=
  let kept := withoutTrailing line
  if kept.length ≠ line.length then
    [⟨number, kept.length + 1, "W291", .warning, "trailing whitespace"⟩]
  else []

/-- The line has more characters than allowed. -/
def lengthFindings (most number : Nat) (line : List Char) : List TextFinding :=
  if most < line.length then
    [⟨number, most + 1, "E501", .error,
      "line too long (" ++ toString line.length ++ " > " ++ toString most ++ " characters)"⟩]
  else []

/-- What the checks of a single line find, in order. -/
def lineFindings (most number : Nat) (line : List Char) : List TextFinding :=
  let line := Text.dropReturn line
  tabFindings number line ++ trailingFindings number line ++ lengthFindings most number line

/-- What the checks find in lines that start with a given number. -/
def linesFindings (most : Nat) : Nat → List (List Char) → List TextFinding
  | _, [] => []
  | number, line :: rest => lineFindings most number line ++ linesFindings most (number + 1) rest

/-- The last line is not ended. -/
def endFindings (text : List Char) : List TextFinding :=
  let lines := Text.linesOf text
  if text.isEmpty ∨ text.getLast? = some '\n' then []
  else
    [⟨lines.length, ((lines.getLast?.map List.length).getD 0) + 1, "W292", .warning,
      "no newline at end of file"⟩]

/-- What all checks find in a text. -/
def textFindings (most : Nat) (text : List Char) : List TextFinding :=
  linesFindings most 1 (Text.linesOf text) ++ endFindings text

/-- The findings of all checks in the text of a file. -/
def checkText (path text : String) (most : Nat) : List Diagnostic :=
  (textFindings most text.toList).map fun f =>
    { path, line := f.line, column := some f.column, code := f.code, severity := f.severity
      message := f.message }

end NfvCatalog.Lint

/-! ## What linters print

A linter prints a finding as path, line, optional column and message, with colons between them; the
message may start with a code. Lines of any other form are noise.
-/

namespace NfvCatalog.Lint

/-- A line of a linter taken apart. The numbers are still text. -/
structure LinterLine where
  line : List Char
  column : Option (List Char)
  code : Option (List Char)
  message : List Char
deriving DecidableEq, Repr, Inhabited

/-- The code at the start of a message: capital letters, digits, and blanks after them. -/
def codeOf? (message : List Char) : Option (List Char × List Char) :=
  let letters := message.takeWhile Char.isUpper
  let digits := (message.drop letters.length).takeWhile Text.Category.decimalNumber.has
  let rest := message.drop (letters.length + digits.length)
  let kept := rest.dropWhile Text.isBlank
  if letters.isEmpty ∨ digits.isEmpty ∨ kept.length = rest.length ∨ kept.isEmpty then none
  else some (letters ++ digits, kept)

/-- The part of a line after the last colon: blanks, an optional code and a message. -/
def withMessage? (line : List Char) (column : Option (List Char)) (rest : List Char) :
    Option LinterLine :=
  let body := rest.dropWhile Text.isBlank
  match codeOf? body with
  | some (code, message) => some { line, column, code := some code, message }
  | none => if body.isEmpty then none else some { line, column, code := none, message := body }

/-- Digits up to a colon, with the text after it. -/
def digitsBeforeColon? (cs : List Char) : Option (List Char × List Char) :=
  let digits := cs.takeWhile Text.Category.decimalNumber.has
  match digits, cs.drop digits.length with
  | _ :: _, ':' :: rest => some (digits, rest)
  | _, _ => none

/-- Take a line apart. Blanks at its end do not count. -/
def LinterLine.ofLine? (text : List Char) : Option LinterLine := do
  let text := Text.dropTrailingBlanks text
  let path := text.takeWhile (· ≠ ':')
  if path.isEmpty then none
  else
    let (line, rest) ← digitsBeforeColon? (text.drop (path.length + 1))
    let withColumn := (digitsBeforeColon? rest).bind fun c => withMessage? line (some c.1) c.2
    withColumn.orElse fun _ => withMessage? line none rest

/-- A number of at most 64 bits in ASCII digits. -/
def wordOf? (digits : List Char) : Option Nat :=
  if digits.all Char.isDigit then (Digits.nat? 10 digits).filter (· < UInt64.size) else none

/-- The finding of a line. -/
def LinterLine.finding? (path : String) (l : LinterLine) : Option Diagnostic := do
  let line ← wordOf? l.line
  return { path, line, column := l.column.bind wordOf?, code := String.ofList (l.code.getD ['F'])
           severity := .error, message := Text.trim (String.ofList l.message) }

/-- The findings in what a linter prints about a file. -/
def parseLinterOutput (path output : String) : List Diagnostic :=
  (Text.linesOf output.toList).filterMap fun line =>
    (LinterLine.ofLine? line).bind (LinterLine.finding? path)

/-- The digits after each mention of a line, in order. -/
def lineMentions : List Char → List (List Char)
  | 'l' :: 'i' :: 'n' :: 'e' :: ' ' :: rest =>
    let digits := rest.takeWhile Text.Category.decimalNumber.has
    if digits.isEmpty then lineMentions rest else digits :: lineMentions rest
  | _ :: rest => lineMentions rest
  | [] => []

/-- The finding about a file that does not compile: the last line mentioned, and the last line
printed that is not blank. -/
def compileFailure (path errors : String) : Diagnostic :=
  let line := ((lineMentions errors.toList).getLast?.bind wordOf?).getD 1
  let printed := (Text.lines errors).map Text.trim
  let message := (printed.reverse.find? (!·.isEmpty)).getD "compilation failed"
  { path, line, code := "E999", severity := .error, message }

end NfvCatalog.Lint
