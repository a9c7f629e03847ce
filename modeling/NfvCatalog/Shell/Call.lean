import NfvCatalog.Shell.Builtin

/-! # What commands call

The fields of a simple command call a function, a command of the shell or a program. The words that
a shell itself is called with are options, a script and arguments.
-/

namespace NfvCatalog.Shell

/-- What the fields of a command call: a name and arguments, with functions or without, and the
directories to search if they are others than usual. -/
structure Call where
  name : String
  arguments : List String
  path : Option String := none
  usesFunctions : Bool := true
deriving DecidableEq, Repr, Inhabited

namespace Call

/-- The words behind `command` that it runs as they are, and whether it searches the usual
directories. Nothing if it is asked what a name stands for, or has no words. -/
def behindCommand? : Bool → List String → Option (Bool × List String)
  | _, [] => none
  | isStandard, word :: rest =>
    match word.toList with
    | ['-', '-'] => if rest.isEmpty then none else some (isStandard, rest)
    | '-' :: c :: letters =>
      if (c :: letters).all (· = 'p') then behindCommand? true rest else none
    | _ => some (isStandard, word :: rest)

/-- What fields call. `fuel` bounds the words that are only put before others. -/
def ofFields (m : Machine) : Nat → Call → Call
  | 0, call => call
  | fuel + 1, call =>
    if call.name ≠ "command" || (call.usesFunctions && m.functions.any (·.1 = call.name)) then call
    else match behindCommand? false call.arguments with
      | some (isStandard, name :: arguments) =>
        let path := if isStandard then some Launch.standardPath else call.path
        ofFields m fuel ⟨name, arguments, path, false⟩
      | _ => call

/-- Whether a call's first name is that of a special command. -/
def isSpecial (fields : List String) : Bool := (fields.head?).any Builtin.special.contains

/-- The commands whose words can set variables. -/
def assigning : List String := ["alias", "export", "local", "readonly"]

/-- Whether words that set variables stay whole in a command that starts with a word. -/
def assigns (name : String) (rest : List Word) : Bool :=
  assigning.contains name ||
    (name = "command" && rest.any fun word => word.plainText?.any assigning.contains)

end Call

/-! ## Calls of the shell -/

/-- What a shell is called with: whether a script is a word, and the words behind the options. -/
structure Invocation where
  hasScript : Bool := false
  words : List String
deriving DecidableEq, Repr, Inhabited

/-- Set the options that a shell is called with. `fuel` bounds the words. -/
def Invocation.read : Nat → Machine → Bool → List String → Machine × Invocation
  | 0, m, hasScript, words => (m, ⟨hasScript, words⟩)
  | fuel + 1, m, hasScript, words =>
    match words with
    | [] => (m, ⟨hasScript, []⟩)
    | word :: rest =>
      let more (isOn : Bool) (letters : List Char) : Machine × Invocation :=
        let others := letters.filter fun c => c ≠ 'c' && c ≠ 'l'
        let (m, rest) := Builtin.setLetters isOn m others rest
        let hasScript := hasScript || letters.contains 'c'
        if m.halt.isSome then (m, ⟨hasScript, rest⟩) else Invocation.read fuel m hasScript rest
      match word.toList with
      | ['-'] | ['-', '-'] => (m, ⟨hasScript, rest⟩)
      | '-' :: letters => more true letters
      | '+' :: letters => more false letters
      | _ => (m, ⟨hasScript, words⟩)

namespace Launch

/-- Whether a search of directories finds a file, which need not be one that can be run. -/
def findsFile (m : Machine) (path name : String) : Bool :=
  (Text.split ':' path).any fun directory =>
    match m.entryAt (inDirectory directory name) with
    | .ok (.file ..) => true
    | _ => false

/-- How a shell says that a program does not start, and the status of that. -/
def faultOf (m : Machine) (path name : String) (error : SpawnError) : String × Nat :=
  let isPlace := name.isEmpty && (Text.split ':' path).any fun directory =>
    (m.entryAt directory).toOption.isSome
  match if isPlace then .file .denied else error with
  | .file .notFound | .file .notDirectory => (name ++ ": not found", 127)
  | .file .nameTooLong => (name ++ ": " ++ FileError.nameTooLong.reason, 127)
  | .file error =>
    let isKnown := name.toList.contains '/' || findsFile m path name
    (name ++ ": " ++ error.reason, if isKnown then 126 else 127)
  | .tooManyLevels => (name ++ ": Too many levels of symbolic links", 127)
  | .badFormat | .hasNul => (name ++ ": Exec format error", 126)

end Launch

end NfvCatalog.Shell
