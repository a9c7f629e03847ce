import NfvCatalog.Number.Digits
import NfvCatalog.Text.Blank

/-! # Grammars of command lines

A command line is a list of words. Words that begin with a hyphen are options, with a long name
behind two hyphens or with a cluster of letters behind one; the value of an option follows in the
same word or is the next word. Two hyphens alone end the options. The other words choose a command,
and then are its operands. An option may be given on the level of any command that has it.
-/

namespace NfvCatalog.CommandLine

/-- What a written value may be. -/
inductive ValueKind where
  | text
  | path
  | natural
  | choice (names : List String)
deriving DecidableEq, Repr, Inhabited

namespace ValueKind

/-- A number of 64 bits. -/
def natural? (text : String) : Option Nat := (Digits.word? text).map UInt64.toNat

/-- Whether a text is a value of a kind. -/
def accepts : ValueKind → String → Bool
  | .text, _ => true
  | .path, value => !value.isEmpty
  | .natural, value => (natural? value).isSome
  | .choice names, value => names.contains value

end ValueKind

/-- How an option is used. -/
inductive OptionUse where
  | flag
  /-- A flag that may be given several times. -/
  | count
  | value (kind : ValueKind)
  /-- A value that may be given several times. -/
  | values (kind : ValueKind)
  | help
  | version
deriving DecidableEq, Repr, Inhabited

namespace OptionUse

/-- The kind of the value that the option takes. -/
def valueKind? : OptionUse → Option ValueKind
  | .value kind | .values kind => some kind
  | _ => none

/-- Whether the option may be given once only. -/
def isSingle : OptionUse → Bool
  | .flag | .value _ => true
  | _ => false

end OptionUse

/-- An option. -/
structure OptionSpec where
  long : String
  short : Option Char := none
  use : OptionUse
deriving DecidableEq, Repr, Inhabited

/-- The operands of a command. -/
inductive Operands where
  | one (kind : ValueKind)
  | many (kind : ValueKind) (required : Bool)
deriving DecidableEq, Repr, Inhabited

namespace Operands

/-- The kind of every operand. -/
def kind : Operands → ValueKind
  | .one kind | .many kind _ => kind

/-- Whether a further operand may follow so many. -/
def admits : Operands → Nat → Bool
  | .one _, count => count = 0
  | .many .., _ => true

/-- Whether so many operands are enough. -/
def areEnough : Operands → Nat → Bool
  | .one _, count => count = 1
  | .many _ required, count => !required || 0 < count

end Operands

/-- What is wrong with a command line. -/
inductive UsageFault where
  | unknownOption (word : String)
  | missingValue (option : String)
  | unexpectedValue (option : String)
  | repeated (option : String)
  | conflict (first second : String)
  | badValue (value : String)
  | unknownCommand (word : String)
  | missingCommand
  | missingOperand
  | extraOperand (word : String)
deriving DecidableEq, Repr, Inhabited

/-- The wording of a usage fault. -/
def UsageFault.message : UsageFault → String
  | .unknownOption word => "unexpected argument '" ++ word ++ "' found"
  | .missingValue option => "a value is required for '--" ++ option ++ "' but none was supplied"
  | .unexpectedValue option => "unexpected value for '--" ++ option ++ "'"
  | .repeated option => "the argument '--" ++ option ++ "' cannot be used multiple times"
  | .conflict first second =>
    "the argument '--" ++ first ++ "' cannot be used with '--" ++ second ++ "'"
  | .badValue value => "invalid value '" ++ value ++ "'"
  | .unknownCommand word => "unrecognized subcommand '" ++ word ++ "'"
  | .missingCommand => "a subcommand is required but one was not provided"
  | .missingOperand => "the following required arguments were not provided"
  | .extraOperand word => "unexpected argument '" ++ word ++ "' found"

/-- Why reading a command line ends without a request. -/
inductive Halt where
  | help
  | version
  | misuse (fault : UsageFault)
deriving DecidableEq, Repr, Inhabited

/-! ## What is given -/

/-- The options and operands given on one level, in order. A flag has an empty value. -/
structure Given where
  options : List (String × String) := []
  operands : List String := []
deriving DecidableEq, Repr, Inhabited

namespace Given

/-- Whether an option is given. -/
def has (given : Given) (name : String) : Bool := given.options.any (·.1 = name)

/-- The values of an option. -/
def texts (given : Given) (name : String) : List String :=
  (given.options.filter (·.1 = name)).map Prod.snd

/-- The value of an option that is given once. -/
def text? (given : Given) (name : String) : Option String := (given.texts name).head?

/-- The number that an option is given. -/
def natural? (given : Given) (name : String) : Option Nat :=
  (given.text? name).bind ValueKind.natural?

/-- The first operand. -/
def operand (given : Given) : String := given.operands.headD ""

end Given

/-! ## Grammars -/

/-- What can follow the name of a command. -/
structure CommandShape where
  options : List OptionSpec
  operands : Operands
  /-- The options that exclude each other. -/
  conflicts : List (String × String) := []
deriving DecidableEq, Repr, Inhabited

/-- A grammar of command lines for requests: a command, or a group of commands by name. -/
inductive Grammar (α : Type) where
  | command (shape : CommandShape) (build : Given → α)
  | group (options : List OptionSpec) (members : List (String × Grammar α))

namespace Grammar

variable {α : Type}

/-- The options on the level of a grammar. -/
def options : Grammar α → List OptionSpec
  | .command shape _ => shape.options
  | .group options _ => options

/-- The commands of a group, by name. -/
def members : Grammar α → List (String × Grammar α)
  | .command .. => []
  | .group _ members => members

/-- The names of the commands of a group. -/
def commandNames (grammar : Grammar α) : List String := grammar.members.map Prod.fst

end Grammar

/-! ## Reading -/

/-- The name of the command that every group has and that tells about the group's commands. -/
def helpCommand : String := "help"

/-- A command line that has been read in part. -/
structure Progress (α : Type) where
  grammar : Grammar α
  /-- The level that is being read. -/
  level : Given := { }
  /-- The levels above, innermost first. -/
  outer : List Given := []
  /-- The option whose value is the next word. -/
  pending : Option OptionSpec := none
  /-- Whether the options have ended. -/
  ended : Bool := false
  /-- If help is asked for, the commands that the next word may narrow it to. -/
  topics : Option (List (String × Grammar α)) := none

namespace Progress

variable {α : Type}

/-- Take an option with its value. -/
def give (p : Progress α) (option : OptionSpec) (value : String) : Except Halt (Progress α) :=
  match option.use with
  | .help => .error .help
  | .version => .error .version
  | use =>
    if use.isSingle ∧ p.level.has option.long then .error (.misuse (.repeated option.long))
    else if use.valueKind?.all (·.accepts value) then
      .ok { p with
        pending := none
        level := { p.level with options := p.level.options ++ [(option.long, value)] } }
    else .error (.misuse (.badValue value))

/-- Take an option that has a value, perhaps in its own word. -/
def giveValue (p : Progress α) (option : OptionSpec) :
    Option (List Char) → Except Halt (Progress α)
  | some value => p.give option (String.ofList value)
  | none => .ok { p with pending := some option }

/-- Take an option by its long name. -/
def long (p : Progress α) (text : List Char) : Except Halt (Progress α) :=
  let name := String.ofList (text.takeWhile (· ≠ '='))
  let value := match text.dropWhile (· ≠ '=') with
    | [] => none
    | _ :: value => some value
  match p.grammar.options.find? (·.long = name) with
  | none => .error (.misuse (.unknownOption (String.ofList ('-' :: '-' :: text))))
  | some option =>
    match option.use.valueKind?, value with
    | some _, value => p.giveValue option value
    | none, some _ => .error (.misuse (.unexpectedValue name))
    | none, none => p.give option ""

/-- Take a cluster of options by their letters. What follows an option with a value is the value,
with or without an equals sign. -/
def cluster (p : Progress α) : List Char → Except Halt (Progress α)
  | [] => .ok p
  | c :: rest =>
    match p.grammar.options.find? (·.short = some c) with
    | none => .error (.misuse (.unknownOption (String.ofList ['-', c])))
    | some option =>
      if option.use.valueKind?.isSome then
        p.giveValue option (match rest with
          | [] => none
          | '=' :: value => some value
          | value => some value)
      else
        match p.give option "" with
        | .error halt => .error halt
        | .ok p => cluster p rest

/-- Take a word as an operand. -/
def operand (p : Progress α) (word : String) : Except Halt (Progress α) :=
  match p.grammar with
  | .group .. => .error (.misuse (.unknownCommand word))
  | .command shape _ =>
    if !shape.operands.admits p.level.operands.length then
      .error (.misuse (.extraOperand word))
    else if !shape.operands.kind.accepts word then .error (.misuse (.badValue word))
    else .ok { p with level := { p.level with operands := p.level.operands ++ [word] } }

/-- Take a word without a hyphen in front: the name of a command, or an operand. -/
def plain (p : Progress α) (word : String) : Except Halt (Progress α) :=
  match p.grammar with
  | .group _ members =>
    match members.find? (·.1 = word) with
    | some (_, grammar) => .ok { grammar, outer := p.level :: p.outer }
    | none =>
      if word = helpCommand then .ok { p with topics := some members }
      else .error (.misuse (.unknownCommand word))
  | .command .. => p.operand word

/-- Take a word that narrows the help to a command. The command that tells about others is one of
them, and has none of its own. -/
def narrow (p : Progress α) (commands : List (String × Grammar α)) (word : String) :
    Except Halt (Progress α) :=
  match commands.find? (·.1 = word) with
  | some (_, grammar) => .ok { p with topics := some grammar.members }
  | none =>
    if word = helpCommand ∧ !commands.isEmpty then .ok { p with topics := some [] }
    else .error (.misuse (.unknownCommand word))

/-- Whether a word cannot be a value because it is an option. -/
def isOption (word : String) : Bool := Text.startsWith word "-" && word ≠ "-"

/-- Take the next word. -/
def step (p : Progress α) (word : String) : Except Halt (Progress α) :=
  match p.topics, p.pending with
  | some commands, _ => p.narrow commands word
  | none, some option =>
    if isOption word then .error (.misuse (.missingValue option.long)) else p.give option word
  | none, none =>
    if p.ended then p.operand word
    else
      match word.toList with
      | ['-', '-'] => .ok { p with ended := true }
      | '-' :: '-' :: text => p.long text
      | '-' :: c :: rest => p.cluster (c :: rest)
      | _ => p.plain word

/-- The request of a command line that has been read to its end, with what is given on each level,
innermost first. -/
def finish (p : Progress α) : Except Halt (α × List Given) :=
  match p.topics, p.pending, p.grammar with
  | some _, _, _ => .error .help
  | none, some option, _ => .error (.misuse (.missingValue option.long))
  | none, none, .group .. => .error (.misuse .missingCommand)
  | none, none, .command shape build =>
    match shape.conflicts.find? fun pair => p.level.has pair.1 && p.level.has pair.2 with
    | some (first, second) => .error (.misuse (.conflict first second))
    | none =>
      if shape.operands.areEnough p.level.operands.length then
        .ok (build p.level, p.level :: p.outer)
      else .error (.misuse .missingOperand)

end Progress

/-- Read a command line. -/
def Grammar.read {α : Type} (grammar : Grammar α) (words : List String) :
    Except Halt (α × List Given) :=
  match words.foldlM Progress.step { grammar } with
  | .error halt => .error halt
  | .ok progress => progress.finish

end NfvCatalog.CommandLine
