import NfvCatalog.Shell.Machine

/-! # Options of programs

How the small programs of a machine read their words: options of one letter, which can be joined,
options with names, which can be cut short, and operands. A program that is called in a wrong way
says so and points to its help.
-/

namespace NfvCatalog.Shell.Utility

/-- Whether an option has a value. -/
inductive Valued where
  | never
  | always
  | maybe
deriving DecidableEq, Repr, Inhabited

/-- An option: its letter, its name, and whether it has a value. An option without a letter of its
own has one that cannot be written. -/
structure OptionRule where
  letter : Char
  name : String := ""
  valued : Valued := .never
deriving DecidableEq, Repr, Inhabited

/-- The options of a program, whether options can follow operands, and the status of a wrong call.
-/
structure Usage where
  rules : List OptionRule
  mixes : Bool := true
  status : Nat := 1
deriving Repr, Inhabited

/-- Options with their values, and operands. -/
structure Given where
  options : List (Char × String) := []
  operands : List String := []
deriving DecidableEq, Repr, Inhabited

namespace Given

/-- Whether an option is given. -/
def has (given : Given) (letter : Char) : Bool := given.options.any (·.1 = letter)

/-- The last value of an option. -/
def value? (given : Given) (letter : Char) : Option String :=
  ((given.options.filter (·.1 = letter)).getLast?).map Prod.snd

/-- All values of an option. -/
def values (given : Given) (letter : Char) : List String :=
  (given.options.filter (·.1 = letter)).map Prod.snd

/-- The last one of some options that is given. -/
def last? (given : Given) (letters : List Char) : Option Char :=
  ((given.options.map Prod.fst).filter letters.contains).getLast?

end Given

namespace Usage

/-- Rules of letters, of which those that a colon follows have a value, with names of some. -/
def ofLetters (letters : String) (names : List (Char × String)) : List OptionRule :=
  let rec rules : List Char → List OptionRule
    | c :: ':' :: rest => ⟨c, "", .always⟩ :: rules rest
    | c :: rest => ⟨c, "", .never⟩ :: rules rest
    | [] => []
  let short := rules letters.toList
  names.map (fun (letter, name) =>
    ⟨letter, name, ((short.find? (·.letter = letter)).map OptionRule.valued).getD .never⟩) ++ short

/-- The options of the letters of a word, and the words after it. -/
def letters (usage : Usage) : List Char → List String →
    Except String (List (Char × String) × List String)
  | [], rest => .ok ([], rest)
  | c :: others, rest =>
    match usage.rules.find? (·.letter = c) with
    | none => .error ("invalid option -- '" ++ String.singleton c ++ "'")
    | some rule =>
      match rule.valued, rest with
      | .never, _ => do
        let (found, rest) ← letters usage others rest
        return ((c, "") :: found, rest)
      | .maybe, _ => .ok ([(c, String.ofList others)], rest)
      | .always, next :: tail =>
        if others.isEmpty then .ok ([(c, next)], tail) else .ok ([(c, String.ofList others)], rest)
      | .always, [] =>
        if others.isEmpty then
          .error ("option requires an argument -- '" ++ String.singleton c ++ "'")
        else .ok ([(c, String.ofList others)], [])

/-- The option of a word with a name, and the words after it. -/
def named (usage : Usage) (text : String) (rest : List String) :
    Except String ((Char × String) × List String) :=
  let name := String.ofList (text.toList.takeWhile (· ≠ '='))
  let hasValue := name.length < text.length
  let value := String.ofList (text.toList.drop (name.length + 1))
  let known := usage.rules.filter (!·.name.isEmpty)
  let close := known.filter fun rule => Text.startsWith rule.name name
  let isOne := match close with
    | first :: others => others.all (·.letter = first.letter)
    | [] => false
  let rule? := (known.find? (·.name = name)).orElse fun _ => if isOne then close.head? else none
  match rule?, close with
  | none, [] => .error ("unrecognized option '--" ++ name ++ "'")
  | none, close =>
    .error ("option '--" ++ text ++ "' is ambiguous; possibilities:" ++
      String.join (close.map fun rule => " '--" ++ rule.name ++ "'"))
  | some rule, _ =>
    if rule.valued = .never && hasValue then
      .error ("option '--" ++ rule.name ++ "' doesn't allow an argument")
    else if rule.valued = .always && !hasValue then
      match rest with
      | next :: tail => .ok ((rule.letter, next), tail)
      | [] => .error ("option '--" ++ rule.name ++ "' requires an argument")
    else .ok ((rule.letter, value), rest)

/-- The options and operands of words; `fuel` bounds the words. -/
def read (usage : Usage) : Nat → List String → Except String Given
  | 0, words => .ok { operands := words }
  | fuel + 1, words =>
    match words with
    | [] => .ok {}
    | "--" :: rest => .ok { operands := rest }
    | word :: rest =>
      match word.toList with
      | '-' :: '-' :: name => do
        let (option, rest) ← named usage (String.ofList name) rest
        let given ← read usage fuel rest
        return { given with options := option :: given.options }
      | '-' :: c :: others => do
        let (found, rest) ← letters usage (c :: others) rest
        let given ← read usage fuel rest
        return { given with options := found ++ given.options }
      | _ =>
        if usage.mixes then do
          let given ← read usage fuel rest
          return { given with operands := word :: given.operands }
        else .ok { operands := words }

end Usage

/-! ## Ends of programs -/

/-- Say a fault under the program's name, and end with a status. -/
def fault (m : Machine) (status : Nat) (text : String) : Machine :=
  (m.complain (m.name ++ ": " ++ text)).finish status

/-- Say what a wrong call is missing, and point to the help. -/
def misuse (m : Machine) (status : Nat) (text : String) : Machine :=
  fault m status (text ++ "\nTry '" ++ m.name ++ " --help' for more information.")

/-- Read the words of a program and run it. -/
def withGiven (m : Machine) (usage : Usage) (words : List String) (act : Given → Machine) :
    Machine :=
  match usage.read (words.length + 1) words with
  | .ok given => act given
  | .error text => misuse m usage.status text

/-- A text in the quotes of messages. -/
def inQuotes (text : String) : String := "'" ++ text ++ "'"

/-! ## Files -/

/-- The text of an operand: a file, or the input for a hyphen. -/
def contentOf (m : Machine) (path : String) : Machine × Except FileError (List Char) :=
  let chars (bytes : List UInt8) : List Char := bytes.map fun byte => Char.ofNat byte.toNat
  if path = "-" ∨ m.place path = "/dev/stdin" then
    let (m, found) := m.readAll 0
    (m, found.map chars)
  else if m.isZeros path then (m.stop .outOfTime, .ok (chars Machine.manyZeros))
  else if m.isDevice path then (m, .ok [])
  else (m, (m.bytesOf path).map chars)

/-- Run a program on the text of each operand, or on the input if there is none. Files that cannot
be read are complained about with the words that `complaint` gives. -/
def withContents (m : Machine) (status : Nat) (complaint : String → FileError → String)
    (paths : List String) (act : Machine → String → List Char → Machine) : Machine :=
  (if paths.isEmpty then ["-"] else paths).foldl (fun m path =>
    match contentOf m path with
    | (m, .ok content) => act m path content
    | (m, .error error) => fault m status (complaint path error)) (m.finish 0)

/-- The usual complaint about a file that cannot be read. -/
def unread (path : String) (error : FileError) : String := path ++ ": " ++ error.reason

/-- The complaint of programs that tell opening from reading. -/
def unopened (path : String) (error : FileError) : String :=
  if error = .isDirectory then "error reading " ++ inQuotes path ++ ": " ++ error.reason
  else "cannot open " ++ inQuotes path ++ " for reading: " ++ error.reason

/-- The lines of a text, without their line breaks. -/
def linesOf (content : List Char) : List (List Char) :=
  let lines := Text.splitChars '\n' content
  if lines.getLast? = some [] then lines.dropLast else lines

/-- The text of lines, each with a line break. -/
def ofLines (lines : List (List Char)) : String :=
  String.ofList (lines.flatMap (· ++ ['\n']))

end NfvCatalog.Shell.Utility
