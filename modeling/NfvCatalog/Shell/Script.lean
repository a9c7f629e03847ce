/-! # Scripts

The commands of the shell language that tools are written in, and the words of which commands are
made. The texts of a script are texts of bytes.
-/

namespace NfvCatalog.Shell

/-- What stands for a parameter: its value, the length of it, a word when it is unset (or also when
it is empty), which may be kept as the value or be the reason to stop, a word when it is set, or its
value without a front or an end that fits a pattern. A rule that is none stops the script. -/
inductive Substitute where
  | value
  | length
  | whenUnset (alsoEmpty : Bool)
  | keptWhenUnset (alsoEmpty : Bool)
  | neededUnlessSet (alsoEmpty : Bool)
  | whenSet (notEmpty : Bool)
  | cutFront (longest : Bool)
  | cutEnd (longest : Bool)
  | bad
deriving DecidableEq, Repr, Inhabited

/-- What a redirection does to a stream: it leads it to a file, which is emptied, or must be new, or
is written at its end, or is read, or both; it leads it to a text or to where another stream leads.
-/
inductive Direction where
  | toFile
  | overFile
  | toEnd
  | fromFile
  | bothWays
  | fromText
  | toStream
deriving DecidableEq, Repr, Inhabited

mutual

/-- A part of a word. Quoted parts are neither split nor taken as patterns. -/
inductive Part where
  | plain (text : String)
  | quoted (text : String)
  | parameter (name : String) (rule : Substitute) (word : List Part) (isQuoted : Bool)
  | output (body : Command) (isQuoted : Bool)
  | number (expression : List Part) (isQuoted : Bool)

/-- A redirection of a stream. -/
inductive Redirect where
  | mk (stream : Nat) (direction : Direction) (target : List Part)

/-- A command. Those that can fail by themselves know the line that they start in. -/
inductive Command where
  | skip
  | simple (line : Nat) (assignments : List (String × List Part)) (words : List (List Part))
      (redirects : List Redirect)
  | redirected (line : Nat) (body : Command) (redirects : List Redirect)
  | subshell (line : Nat) (body : Command) (redirects : List Redirect)
  | background (body : Command)
  | pipeline (stages : List Command)
  | negated (body : Command)
  | andThen (first second : Command)
  | orElse (first second : Command)
  | inOrder (first second : Command)
  | ifElse (condition body otherwise : Command)
  | loop (wanted : Bool) (condition body : Command)
  | each (line : Nat) (name : String) (words : List (List Part)) (body : Command)
  | select (line : Nat) (subject : List Part) (arms : List (List (List Part) × Command))
  | define (name : String) (body : Command)

end

instance : Inhabited Command := ⟨.skip⟩

instance : Inhabited Part := ⟨.plain ""⟩

instance : Inhabited Redirect := ⟨.mk 0 .fromFile []⟩

/-- A word. -/
abbrev Word := List Part

namespace Word

/-- A part put before a word; plain texts, and quoted texts, join. -/
def cons (part : Part) (word : Word) : Word :=
  match part, word with
  | .plain first, .plain second :: rest => .plain (first ++ second) :: rest
  | .quoted first, .quoted second :: rest => .quoted (first ++ second) :: rest
  | _, _ => part :: word

/-- Two words in one. -/
def append (first second : Word) : Word := first.foldr cons second

/-- The text that a word spells, quoted or not. -/
def spelling (word : Word) : String :=
  String.join (word.map fun
    | .plain text | .quoted text => text
    | _ => "")

/-- Whether some of a word is quoted. -/
def hasQuotes (word : Word) : Bool :=
  word.any fun
    | .quoted _ => true
    | _ => false

/-- The text of a word that is not quoted and stands for itself. -/
def plainText? : Word → Option String
  | [.plain text] => some text
  | _ => none

end Word

/-! ## Names -/

/-- A character that a name can start with. -/
def startsName (c : Char) : Bool := c.isAlpha || c = '_'

/-- A character of a name. -/
def isNameChar (c : Char) : Bool := c.isAlphanum || c = '_'

/-- Whether a text is a name. -/
def isName (text : String) : Bool :=
  match text.toList with
  | c :: rest => startsName c && rest.all isNameChar
  | [] => false

/-- A parameter whose name is a single mark. -/
def isMark (c : Char) : Bool := c.isDigit || "@*#?-$!".toList.contains c

/-- The words that start, join or end compound commands. -/
def keywords : List String :=
  ["!", "case", "do", "done", "elif", "else", "esac", "fi", "for", "if", "in", "then", "until",
    "while", "\x7b", "\x7d"]

/-- The name and the value of a text that sets a variable. -/
def assignment? (text : String) : Option (String × String) :=
  let name := text.toList.takeWhile isNameChar
  match text.toList.drop name.length with
  | '=' :: value =>
    let name := String.ofList name
    if isName name then some (name, String.ofList value) else none
  | _ => none

end NfvCatalog.Shell
