import NfvCatalog.Shell.Source

/-! # Tokens of scripts

The units that the grammar of scripts is about, and the ways in which a text can fail to follow it.
-/

namespace NfvCatalog.Shell

/-- A unit of a script. -/
inductive Token where
  | finish
  | lineEnd
  | semicolon
  | background
  | andThen
  | orElse
  | pipe
  | opening
  | closing
  | caseEnd
  | word (word : Word)
  | keyword (text : String)
  | redirect (stream : Nat) (direction : Direction) (dropTabs : Bool)

instance : Inhabited Token := ⟨.finish⟩

namespace Token

/-- How a token is called in a complaint. -/
def shown : Token → String
  | .finish => "end of file"
  | .lineEnd => "newline"
  | .semicolon => "\";\""
  | .background => "\"&\""
  | .andThen => "\"&&\""
  | .orElse => "\"||\""
  | .pipe => "\"|\""
  | .opening => "\"(\""
  | .closing => "\")\""
  | .caseEnd => "\";;\""
  | .word _ => "word"
  | .keyword text => "\"" ++ text ++ "\""
  | .redirect .. => "redirection"

/-- Whether a token ends a list of commands inside of another command. -/
def endsList : Token → Bool
  | .finish | .closing | .caseEnd => true
  | .keyword text => ["then", "elif", "else", "fi", "do", "done", "esac", "\x7d"].contains text
  | _ => false

/-- Whether the text ends with a token. -/
def isFinish : Token → Bool
  | .finish => true
  | _ => false

/-- Whether a token is a given keyword. -/
def isKeyword (text : String) : Token → Bool
  | .keyword found => found = text
  | _ => false

/-- The word that a token spells. -/
def word? : Token → Option Word
  | .word parts => some parts
  | .keyword text => some [.plain text]
  | _ => none

end Token

/-- Why a text is no script. -/
inductive ReadFault where
  | unexpected (found : Token) (wanted : Option Token)
  | openQuote
  | openBackquote
  | openBrace
  | openSum
  | badLoopName
  | badFunctionName
  | tooLong
deriving Inhabited

/-- The wording of a fault. -/
def ReadFault.message : ReadFault → String
  | .unexpected found none => found.shown ++ " unexpected"
  | .unexpected found (some wanted) =>
    found.shown ++ " unexpected (expecting " ++ wanted.shown ++ ")"
  | .openQuote => "Unterminated quoted string"
  | .openBackquote => "EOF in backquote substitution"
  | .openBrace => "Missing '\x7d'"
  | .openSum => "Missing '))'"
  | .badLoopName => "Bad for loop variable"
  | .badFunctionName => "Bad function name"
  | .tooLong => "too long"

/-- A fault and the line that reading had come to. -/
structure FaultAt where
  line : Nat
  fault : ReadFault
deriving Inhabited

/-- A token and the text behind it. -/
structure Cursor where
  token : Token
  source : Source
deriving Inhabited

namespace Cursor

/-- The fault of a token that should not stand where it stands. -/
def unexpected (cursor : Cursor) (wanted : Option Token) : FaultAt :=
  ⟨cursor.source.line, .unexpected cursor.token wanted⟩

/-- The text behind a keyword that must stand here. -/
def afterKeyword (cursor : Cursor) (text : String) : Except FaultAt Source :=
  if cursor.token.isKeyword text then .ok cursor.source
  else .error (cursor.unexpected (some (.keyword text)))

/-- The text behind a closing parenthesis that must stand here. -/
def afterClosing (cursor : Cursor) : Except FaultAt Source :=
  match cursor.token with
  | .closing => .ok cursor.source
  | _ => .error (cursor.unexpected (some .closing))

end Cursor

/-- What is looked for when a token is read: whether line breaks are passed over, and whether words
may be keywords or stand for other texts. -/
structure Wants where
  passesBreaks : Bool := false
  keywords : Bool := false
  renames : Bool := false
deriving DecidableEq, Repr, Inhabited

namespace Wants

/-- The start of a command on this line or a later one. -/
def command : Wants := ⟨true, true, true⟩

/-- The start of a command on this line. -/
def commandHere : Wants := ⟨false, true, true⟩

/-- The first word of a command behind its assignments. -/
def firstWord : Wants := ⟨false, false, true⟩

/-- A word that stands for itself. -/
def wordOnly : Wants := ⟨false, false, false⟩

/-- A pattern or the end of a selection. -/
def pattern : Wants := ⟨true, true, false⟩

end Wants

/-- How a part of a word is quoted: not at all; as the end mark of a text, in which nothing is
replaced; by double quotes; as a text that is given as input; as an arithmetic expression. -/
inductive Quoting where
  | bare
  | mark
  | double
  | given
  | sum
deriving DecidableEq, Repr, Inhabited

/-- Where a part of a word stands: how it is quoted, whether it is a word in the braces of a
parameter, whether quotes are open in that word, and the number of open parentheses. -/
structure Setting where
  quoting : Quoting
  inBraces : Bool := false
  inQuotes : Bool := false
  depth : Nat := 0
deriving DecidableEq, Repr, Inhabited

namespace Setting

/-- Whether text is kept as it is, neither split nor taken as a pattern. -/
def isQuoted (setting : Setting) : Bool := setting.quoting ≠ .bare && setting.quoting ≠ .mark

/-- The part that a text of its own is. -/
def part (setting : Setting) (text : String) : Part :=
  if setting.isQuoted then .quoted text else .plain text

/-- The setting of a word in the braces of a parameter; patterns are not quoted from outside. -/
def braces (setting : Setting) (rule : Substitute) : Setting :=
  let quoting := match rule, setting.quoting with
    | .cutFront _, _ | .cutEnd _, _ => .bare
    | _, .sum => .double
    | _, quoting => quoting
  { quoting, inBraces := true }

/-- Whether a word ends before a character. -/
def endsBefore (setting : Setting) (c : Char) : Bool :=
  !setting.isQuoted && !setting.inBraces && " \t\n;&|<>()".toList.contains c

/-- Whether a character has a meaning of its own. -/
def isActive (setting : Setting) (c : Char) : Bool :=
  setting.endsBefore c || "\\'\"$\x60\x7d()".toList.contains c

/-- Whether a backslash takes the meaning of a character away. -/
def escapes (setting : Setting) (c : Char) : Bool :=
  !setting.isQuoted || c = '\\' || c = '\x60' || c = '$' || (c = '\x7d' && setting.inBraces) ||
    (c = '"' && (setting.quoting ≠ .given || setting.inBraces))

/-- The fault of a text that ends here, if any. -/
def faultAtEnd? (setting : Setting) : Option ReadFault :=
  match setting.quoting with
  | .sum => some .openSum
  | .double => some .openQuote
  | _ => if setting.inBraces then some .openBrace else none

end Setting

end NfvCatalog.Shell
