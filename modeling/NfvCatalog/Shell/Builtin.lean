import NfvCatalog.Shell.Condition
import NfvCatalog.Shell.Field
import NfvCatalog.Shell.Format

/-! # Commands of the shell

The commands that the shell runs itself and that run no other commands. A fault stops the shell if
the command is a special one; else the command only fails.
-/

namespace NfvCatalog.Shell.Builtin

/-! ## Names -/

/-- The special commands. -/
def special : List String :=
  [".", ":", "break", "continue", "eval", "exec", "exit", "export", "local", "readonly", "return",
    "set", "shift", "times", "trap", "unset"]

/-- The other commands of the shell. -/
def regular : List String :=
  ["[", "alias", "bg", "cd", "chdir", "command", "echo", "false", "fg", "getopts", "hash", "jobs",
    "kill", "printf", "pwd", "read", "test", "true", "type", "ulimit", "umask", "unalias", "wait"]

/-- Whether a name is that of a command of the shell. -/
def isName (name : String) : Bool := special.contains name || regular.contains name

/-- A text in quotes that the shell reads back. -/
def quoted (text : String) : String :=
  String.ofList ('\'' :: pieces false text.toList)
where
  /-- The text behind an opening quote; `inDouble` says whether double quotes are open. -/
  pieces : Bool → List Char → List Char
    | false, [] => ['\'']
    | true, [] => ['"']
    | false, '\'' :: rest => '\'' :: '"' :: '\'' :: pieces true rest
    | true, '\'' :: rest => '\'' :: pieces true rest
    | false, c :: rest => c :: pieces false rest
    | true, c :: rest => '"' :: '\'' :: c :: pieces false rest

/-! ## Options -/

/-- The options at the start of words, each with its value, and the words after them. A letter that
a colon follows in `allowed` takes a value. -/
def options (allowed : String) : Nat → List String →
    Except String (List (Char × String) × List String)
  | 0, words => .ok ([], words)
  | fuel + 1, words =>
    match words with
    | "--" :: rest => .ok ([], rest)
    | word :: rest =>
      match word.toList with
      | '-' :: c :: letters => do
        let (found, rest) ← lettersOf allowed (c :: letters) rest
        let (others, rest) ← options allowed fuel rest
        return (found ++ others, rest)
      | _ => .ok ([], words)
    | [] => .ok ([], [])
where
  /-- The options of a word's letters. -/
  lettersOf (allowed : String) : List Char → List String →
      Except String (List (Char × String) × List String)
    | [], rest => .ok ([], rest)
    | c :: letters, rest =>
      let place := allowed.toList.dropWhile (· ≠ c)
      if place.isEmpty || c = ':' then .error ("Illegal option -" ++ String.singleton c)
      else if place[1]? = some ':' then
        if !letters.isEmpty then .ok ([(c, String.ofList letters)], rest)
        else match rest with
          | value :: rest => .ok ([(c, value)], rest)
          | [] => .error ("No arg for -" ++ String.singleton c ++ " option")
      else (lettersOf allowed letters rest).map fun (found, rest) => ((c, "") :: found, rest)

/-- Run a command with its options and the words after them. -/
def withOptions (m : Machine) (allowed : String) (words : List String)
    (act : List Char → List String → Machine) : Machine :=
  match options allowed (words.length + 1) words with
  | .ok (found, rest) => act (found.map Prod.fst) rest
  | .error fault => m.fail fault

/-- The number that a word must be. -/
def withCount (m : Machine) (word : String) (act : Nat → Machine) : Machine :=
  match Spelled.count? word with
  | some n => act n
  | none => m.fail ("Illegal number: " ++ word)

/-! ## Variables -/

/-- Set a variable, if its name is one and it can be set. -/
def assign (m : Machine) (name value : String) : Machine :=
  if !Shell.isName name then m.fail (name ++ ": bad variable name")
  else if m.isReadOnly name then m.fail (name ++ ": is read only")
  else m.set name value

/-- Do something with each of some words until it fails. -/
def eachWord (m : Machine) (words : List String) (act : Machine → String → Machine) : Machine :=
  words.foldl (fun m word => if m.halt.isSome then m else act m word) m

/-- Print variables as commands that set them. -/
def listVariables (m : Machine) (lead : String) (kind : Binding → Bool) : Machine :=
  let sorted := m.bindings.mergeSort fun a b => Text.le a.1 b.1
  let lines := sorted.filterMap fun (name, binding) =>
    if !kind binding then none
    else match binding.value with
      | some value => some (lead ++ name ++ "=" ++ quoted value ++ "\n")
      | none => if lead.isEmpty then none else some (lead ++ name ++ "\n")
  m.printText (String.join lines)

/-- Mark variables, and set those that are given a value. -/
def mark (m : Machine) (command : String) (kind : Binding → Bool) (change : Binding → Binding)
    (words : List String) : Machine :=
  withOptions m "p" words fun letters rest =>
    if !letters.isEmpty || rest.isEmpty then (listVariables m (command ++ " ") kind).finish 0
    else eachWord (m.finish 0) rest fun m word =>
      let name := String.ofList (word.toList.takeWhile (· ≠ '='))
      let m :=
        if name.length < word.length then
          assign m name (String.ofList (word.toList.drop (name.length + 1)))
        else if !Shell.isName name then m.fail (name ++ ": bad variable name")
        else m
      if m.halt.isSome then m else m.bind name (change (m.binding name))

/-- Forget variables or functions. -/
def unset (m : Machine) (words : List String) : Machine :=
  withOptions m "vf" words fun letters rest =>
    eachWord (m.finish 0) rest fun m name =>
      if letters.getLast? = some 'f' then
        { m with functions := m.functions.filter (·.1 ≠ name) }
      else if !Shell.isName name then m.fail (name ++ ": bad variable name")
      else if m.isReadOnly name then m.fail (name ++ ": is read only")
      else m.unset name

/-- Make a variable or the options a function's own, until it returns. -/
def ownWord (m : Machine) (word : String) : Machine :=
  if word = "-" then
    if m.savedOptions.isSome then m else { m with savedOptions := some m.options }
  else
    let name := String.ofList (word.toList.takeWhile (· ≠ '='))
    let hasValue := name.length < word.length
    let kept := if m.saved.any (·.1 = name) then m.saved
      else (name, Keyed.get? m.bindings name) :: m.saved
    if !Shell.isName name then m.fail (name ++ ": bad variable name")
    else
      let m := { m with saved := kept }
      if hasValue then assign m name (String.ofList (word.toList.drop (name.length + 1))) else m

/-- Make variables a function's own. -/
def own (m : Machine) (words : List String) : Machine :=
  if m.depth = 0 then m.fail "not in a function" else eachWord (m.finish 0) words ownWord

/-- Take the arguments after the first ones. -/
def shift (m : Machine) (words : List String) : Machine :=
  let drop (count : Nat) : Machine :=
    if m.arguments.length < count then m.fail "can't shift that many"
    else { m with arguments := m.arguments.drop count, optionIndex := 1, optionPlace := 0 }.finish 0
  match words with
  | [] => drop 1
  | word :: _ => withCount m word drop

/-! ## Options of the shell -/

/-- Set or clear an option by its letter. -/
def setLetter (m : Machine) (isOn : Bool) (letter : Char) : Machine :=
  if !(Machine.optionLetters.any fun entry => entry.1 = letter && letter ≠ ' ') then
    m.fail ("Illegal option -" ++ String.singleton letter)
  else
    let others := m.options.filter (· ≠ letter)
    { m with options := if isOn then letter :: others else others }

/-- Print the options: their states, or the commands that set them. -/
def listOptions (m : Machine) (asStates : Bool) : Machine :=
  let line (entry : Char × String) : String :=
    let isOn := m.options.contains entry.1
    if asStates then
      String.ofList (entry.2.toList ++ List.replicate (16 - entry.2.length) ' ') ++
        (if isOn then "on" else "off") ++ "\n"
    else "set " ++ (if isOn then "-o " else "+o ") ++ entry.2 ++ "\n"
  let head := if asStates then "Current option settings\n" else ""
  m.printText (head ++ String.join (Machine.optionLetters.map line))

/-- Set or clear an option by its name, or print all. -/
def setNamed (m : Machine) (isOn : Bool) (name : Option String) : Machine :=
  match name with
  | none => listOptions m isOn
  | some name =>
    match Machine.optionLetters.find? (·.2 = name) with
    | some (letter, _) => if letter = ' ' then m else setLetter m isOn letter
    | none => m.fail ("Illegal option -o " ++ name)

/-- Set or clear the options of a word's letters, and the words after it. -/
def setLetters (isOn : Bool) : Machine → List Char → List String → Machine × List String
  | m, [], rest => (m, rest)
  | m, letter :: letters, rest =>
    if m.halt.isSome then (m, rest)
    else if letter = 'o' then setLetters isOn (setNamed m isOn rest.head?) letters (rest.drop 1)
    else setLetters isOn (setLetter m isOn letter) letters rest

/-- Take new arguments. -/
def setArguments (m : Machine) (arguments : List String) : Machine :=
  { m with arguments, optionIndex := 1, optionPlace := 0 }

/-- Take options and new arguments. `fuel` bounds the words. -/
def setWords : Nat → Machine → List String → Machine
  | 0, m, _ => m
  | fuel + 1, m, words =>
    match words with
    | [] => m
    | "-" :: rest =>
      let m := { m with options := m.options.filter fun c => c ≠ 'x' && c ≠ 'v' }
      if rest.isEmpty then m else setArguments m rest
    | "--" :: rest => setArguments m rest
    | word :: rest =>
      match word.toList with
      | '-' :: letters =>
        let (m, rest) := setLetters true m letters rest
        if m.halt.isSome then m else setWords fuel m rest
      | '+' :: letters =>
        let (m, rest) := setLetters false m letters rest
        if m.halt.isSome then m else setWords fuel m rest
      | _ => setArguments m words

/-- Print the variables, or take options and new arguments. -/
def set (m : Machine) (words : List String) : Machine :=
  if words.isEmpty then (listVariables m "" fun _ => true).finish 0
  else setWords (words.length + 1) (m.finish 0) words

/-! ## Options of a script -/

/-- What reading the next option of a script gives: its letter, its value, the complaint about it,
and the words before the place that was come to. -/
structure NextOption where
  letter : Char := '?'
  value : Option String := none
  complaint : Option String := none
  index : Nat
  place : Nat := 0
  isLast : Bool := false
deriving Repr, Inhabited

/-- The next option of words: at a place in the word before the index, or in the word at it. -/
def nextOption (allowed : String) (index place : Nat) (words : List String) : NextOption :=
  let isQuiet := allowed.toList.head? = some ':'
  let read (c : Char) (rest : List Char) (index place : Nat) : NextOption :=
    let wanted := allowed.toList.dropWhile (· ≠ c)
    let letter := String.singleton c
    let place := if rest.isEmpty then 0 else place
    if wanted.isEmpty || c = ':' then
      if isQuiet then { value := some letter, index, place }
      else { complaint := some ("Illegal option -" ++ letter), index, place }
    else if wanted[1]? = some ':' then
      if !rest.isEmpty then { letter := c, value := some (String.ofList rest), index }
      else match words[index - 1]? with
        | some value => { letter := c, value := some value, index := index + 1 }
        | none =>
          if isQuiet then { letter := ':', value := some letter, index }
          else { complaint := some ("No arg for -" ++ letter ++ " option"), index }
    else { letter := c, value := some "", index, place }
  let under := if place = 0 then [] else ((words[index - 2]?).getD "").toList.drop place
  match under with
  | c :: rest => read c rest index (place + 1)
  | [] =>
    match ((words[index - 1]?).getD "").toList with
    | ['-', '-'] => { index := index + 1, isLast := true }
    | '-' :: c :: rest => read c rest (index + 1) 2
    | _ => { index, isLast := true }

/-- Read the next option of a script into variables. -/
def getOption (m : Machine) (words : List String) : Machine :=
  match words with
  | allowed :: name :: given =>
    let source := if given.isEmpty then m.arguments else given
    let (index, place) :=
      if source.length + 1 < m.optionIndex then (1, 0) else (max m.optionIndex 1, m.optionPlace)
    let next := nextOption allowed index place source
    let m := match next.complaint with
      | some text => (m.complain text).unset "OPTARG"
      | none => m
    let m := match next.value with
      | some value => if next.isLast then m else m.set "OPTARG" value
      | none => m
    let m := m.set "OPTIND" (toString next.index)
    let m := assign m name (String.singleton next.letter)
    if m.halt.isSome then m
    else { m with optionIndex := next.index, optionPlace := next.place }.finish
      (if next.isLast then 1 else 0)
  | _ => m.fail "Usage: getopts optstring var [arg...]"

/-! ## Reading -/

/-- A line of bytes for `read`: its glyphs, in which escaped characters are quoted, the number of
bytes that it takes, and whether it ends with a line break. -/
def readLine (isRaw : Bool) : List UInt8 → List Glyph × Nat × Bool
  | [] => ([], 0, false)
  | byte :: rest =>
    let c := Char.ofNat byte.toNat
    if c = '\n' then ([], 1, true)
    else if c = '\x00' then
      let (glyphs, count, ends) := readLine isRaw rest
      (glyphs, count + 1, ends)
    else if c = '\\' && !isRaw then
      match rest with
      | [] => ([], 1, false)
      | next :: rest =>
        let (glyphs, count, ends) := readLine isRaw rest
        let d := Char.ofNat next.toNat
        (if d = '\n' ∨ d = '\x00' then glyphs else ⟨d, true⟩ :: glyphs, count + 2, ends)
    else
      let (glyphs, count, ends) := readLine isRaw rest
      (⟨c, false⟩ :: glyphs, count + 1, ends)

/-- Whether a glyph separates fields, and is a blank if `isSoft` says so. -/
def separates (separators : List Char) (isSoft : Bool) (glyph : Glyph) : Bool :=
  !glyph.isQuoted && separators.contains glyph.char && (!isSoft || Spelled.isSpace glyph.char)

/-- Glyphs without separating blanks at their end. -/
def trimmedEnd (separators : List Char) (glyphs : List Glyph) : List Glyph :=
  (glyphs.reverse.dropWhile (separates separators true)).reverse

/-- The last field of a line: all that is left, but for a separator that only ends it. -/
def lastField (separators : List Char) (glyphs : List Glyph) : List Glyph :=
  let kept := trimmedEnd separators glyphs
  match kept.reverse with
  | glyph :: front =>
    let body := trimmedEnd separators front.reverse
    if separates separators false glyph && !body.any (separates separators false) then body
    else kept
  | [] => []

/-- The fields of a line for so many names. -/
def lineFields (separators : List Char) : Nat → List Glyph → List (List Glyph)
  | 0, _ => []
  | 1, glyphs => [lastField separators (glyphs.dropWhile (separates separators true))]
  | count + 2, glyphs =>
    let start := glyphs.dropWhile (separates separators true)
    let field := start.takeWhile (!separates separators false ·)
    let rest := (start.drop field.length).dropWhile (separates separators true)
    let rest := match rest with
      | glyph :: tail => if separates separators false glyph then tail else rest
      | [] => []
    field :: lineFields separators (count + 1) rest

/-- Read a line of the input into variables. -/
def read (m : Machine) (words : List String) : Machine :=
  withOptions m "p:r" words fun letters names =>
    if names.isEmpty then m.fail "arg count"
    else
      let bytes := (m.remaining 0).toOption.getD []
      let (glyphs, count, ends) := readLine (letters.contains 'r') bytes
      let m := m.skip 0 count
      let fields := (lineFields m.separators names.length glyphs).map Glyph.text
      let m := (names.zip fields).foldl
        (fun m entry => if m.halt.isSome then m else assign m entry.1 entry.2) m
      if m.halt.isSome then m else m.finish (if ends then 0 else 1)

/-! ## Directories -/

/-- A path without the steps that lead nowhere. -/
def normalized (path : String) : String :=
  let step (done : List String) (part : String) : List String :=
    if part = "" ∨ part = "." then done else if part = ".." then done.dropLast else done ++ [part]
  "/" ++ Text.join "/" ((Text.split '/' path).foldl step [])

/-- Change to a directory. -/
def changeDirectory (m : Machine) (words : List String) : Machine :=
  withOptions m "LP" words fun _ rest =>
    let isBack := rest.head? = some "-"
    let wanted := match rest with
      | [] => (m.valueOf? "HOME").getD ""
      | "-" :: _ => (m.valueOf? "OLDPWD").getD ""
      | path :: _ => path
    let wanted := if wanted.isEmpty then "." else wanted
    let isFixed := Text.startsWith wanted "/" || ["." , ".."].contains
      ((Text.split '/' wanted).headD "")
    let candidates :=
      if isFixed then [wanted]
      else ((Text.split ':' ((m.valueOf? "CDPATH").getD "")).map
        (Launch.inDirectory · wanted)) ++ [wanted]
    let isThere (path : String) : Bool :=
      match m.entryAt path with
      | .ok .directory => true
      | _ => false
    match candidates.find? isThere with
    | none => m.fail ("can't cd to " ++ wanted)
    | some path =>
      let full := if Text.startsWith path "/" then path else m.directory ++ "/" ++ path
      let moved := ((m.set "OLDPWD" m.directory).set "PWD" (normalized full)).finish 0
      let moved := { moved with directory := normalized full }
      if isBack || path ≠ wanted then moved.printText (moved.directory ++ "\n") else moved

/-! ## Names for other texts -/

/-- Set or print names that stand for other texts. -/
def setAliases (m : Machine) (words : List String) : Machine :=
  let line (entry : String × String) : String := entry.1 ++ "=" ++ quoted entry.2 ++ "\n"
  if words.isEmpty then
    let sorted := m.aliases.mergeSort fun a b => Machine.nameRank a.1 ≤ Machine.nameRank b.1
    (m.printText (String.join (sorted.map line))).finish 0
  else words.foldl (fun m word =>
    let name := String.ofList (word.toList.take 1 ++ (word.toList.drop 1).takeWhile (· ≠ '='))
    if name.length < word.length then
      let value := String.ofList (word.toList.drop (name.length + 1))
      let isKnown := m.aliases.any (·.1 = name)
      let aliases :=
        if isKnown then m.aliases.map fun old => if old.1 = name then (name, value) else old
        else m.aliases ++ [(name, value)]
      { m with aliases }
    else match m.aliases.find? (·.1 = name) with
      | some entry => m.printText (line entry)
      | none => (m.complain ("alias: " ++ name ++ " not found")).finish 1) (m.finish 0)

/-- Forget names that stand for other texts. -/
def unsetAliases (m : Machine) (words : List String) : Machine :=
  withOptions m "a" words fun letters rest =>
    if !letters.isEmpty then { m with aliases := [] }.finish 0
    else rest.foldl (fun m name =>
      if m.aliases.any (·.1 = name) then { m with aliases := m.aliases.filter (·.1 ≠ name) }
      else (m.complain ("unalias: " ++ name ++ " not found")).finish 1) (m.finish 0)

/-! ## What a name stands for -/

/-- Print what a name stands for: in words, or the text that leads to it. -/
def describe (m : Machine) (inWords : Bool) (name : String) : Machine :=
  let say (words short : String) : Machine :=
    (m.printText ((if inWords then name ++ words else short) ++ "\n")).finish 0
  if keywords.contains name then say " is a shell keyword" name
  else match m.aliases.find? (·.1 = name) with
    | some (_, value) => say (" is an alias for " ++ value)
        ("alias " ++ name ++ "=" ++ quoted value)
    | none =>
      if special.contains name then say " is a special shell builtin" name
      else if m.functions.any (·.1 = name) then say " is a shell function" name
      else if regular.contains name then say " is a shell builtin" name
      else match Launch.whereIs? m.tree m.place m.searchPath name with
        | some path => say (" is " ++ path) path
        | none => (if inWords then m.printText (name ++ ": not found\n") else m).finish 127

/-- Print what names stand for. -/
def describeAll (m : Machine) (words : List String) : Machine :=
  words.foldl (fun m name =>
    let done := describe m true name
    if done.status = 0 then done.finish m.status else done) (m.finish 0)

/-- Look names of programs up. -/
def remember (m : Machine) (words : List String) : Machine :=
  withOptions m "rv" words fun _ names =>
    names.foldl (fun m name =>
      if isName name || m.functions.any (·.1 = name) ||
          (Launch.whereIs? m.tree m.place m.searchPath name).isSome then m
      else (m.warn (name ++ ": not found")).finish 1) (m.finish 0)

/-! ## Signals and jobs -/

/-- Say what is to be done at signals. -/
def trap (m : Machine) (words : List String) : Machine :=
  let words := if words.head? = some "--" then words.drop 1 else words
  let isSignal (word : String) : Bool := (Signal.ofText? word).isSome
  match words with
  | [] =>
    let line (signal : Signal) : String :=
      match Keyed.get? m.traps signal.name with
      | some action => "trap -- " ++ quoted action ++ " " ++ signal.name ++ "\n"
      | none => ""
    (m.printText (String.join (Signal.all.map line))).finish 0
  | first :: rest =>
    let (action, names) :=
      if rest.isEmpty || isSignal first then (none, words)
      else (if first = "-" then none else some first, rest)
    let step (done : Machine × Bool) (name : String) : Machine × Bool :=
      if done.2 then done
      else match Signal.ofText? name with
        | none => ((done.1.complain ("trap: " ++ name ++ ": bad trap")).finish 1, true)
        | some signal =>
          let others := done.1.traps.filter (·.1 ≠ signal.name)
          let traps := match action with
            | some action => Keyed.put signal.name action others
            | none => others
          ({ done.1 with traps }, false)
    (names.foldl step (m.finish 0, false)).1

/-- The usage of `kill`. -/
def killUsage : String :=
  "Usage: kill [-s sigspec | -signum | -sigspec] [pid | job]... or\nkill -l [exitstatus]"

/-- The names of all signals, with those that only have a number. -/
def signalNames : List String :=
  let upper (lead : String) (n : Nat) : String := if n = 0 then lead else lead ++ toString n
  "0" :: (Signal.all.drop 1).map Signal.name ++ ["32", "33"] ++
    (List.range 16).map (fun n => if n = 0 then "RTMIN" else upper "RTMIN+" n) ++
    (List.range 15).reverse.map (fun n => if n = 0 then "RTMAX" else upper "RTMAX-" n)

/-- End a job that is still running. It writes nothing from then on. -/
def endJob (m : Machine) (signal : Nat) (job : Job) : Machine :=
  let ended := { job with status := 128 + signal, signal := some signal, clock := m.clock }
  let written (chunk : Chunk) : Bool := chunk.job ≠ job.number || chunk.clock ≤ m.clock
  { m with
    jobs := m.jobs.map fun old => if old.number = job.number then ended else old
    channels := m.channels.map fun
      | .collected chunks => .collected (chunks.filter written)
      | channel => channel }

/-- Send a signal to a process: to the shell itself, to one that waits for it, or to a job. -/
def sendSignal (m : Machine) (signal process : Nat) : Machine :=
  let ends := (Signal.ofNumber? signal).any Signal.ends
  match m.jobs.find? (·.number = process) with
  | some job => if m.clock < job.clock && ends then endJob m signal job else m
  | none =>
    if (m.process :: m.ancestors).contains process then
      if signal = 0 then m else { m with sent := m.sent ++ [(process, signal)] }
    else (m.warn "No such process\n").finish 1

/-- Send signals, or print their names. -/
def kill (m : Machine) (words : List String) : Machine :=
  let named? (text : String) : Option Nat :=
    match Spelled.count? text with
    | some n => if n < 65 then some n else none
    | none => ((Signal.ofText? text).filter (·.number ≠ 0)).map Signal.number
  let plain : Option (Nat × List String) := match words with
    | word :: rest =>
      match word.toList with
      | '-' :: c :: letters => (named? (String.ofList (c :: letters))).map fun n => (n, rest)
      | _ => none
    | [] => none
  let send (signal : Nat) (targets : List String) : Machine :=
    if targets.isEmpty then m.fail killUsage
    else eachWord (m.finish 0) targets fun m word =>
      if Text.startsWith word "%" then m.fail ("No such job: " ++ word)
      else withCount m word (sendSignal m signal)
  match plain with
  | some (signal, targets) => send signal targets
  | none =>
    if words.isEmpty then m.fail killUsage
    else match options "ls:" (words.length + 1) words with
      | .error fault => m.fail fault
      | .ok (found, rest) =>
        let isList := found.any (·.1 = 'l')
        let bad := found.find? fun entry => entry.1 = 's' && (named? entry.2).isNone
        let signal := (found.filter (·.1 = 's')).getLast?.bind fun entry => named? entry.2
        match bad, isList, signal, rest with
        | some (_, text), _, _, _ => m.fail ("invalid signal number or name: " ++ text)
        | none, true, some _, _ => m.fail killUsage
        | none, true, none, [] =>
          (m.printText (String.join (signalNames.map (· ++ "\n")))).finish 0
        | none, true, none, word :: _ =>
          withCount m word fun n =>
            let number := if 128 < n then n - 128 else n
            match if 0 < number then signalNames[number]? else none with
            | some name => (m.printText (name ++ "\n")).finish 0
            | none => m.fail ("invalid signal number or exit status: " ++ word)
        | none, false, signal, targets => send (signal.getD 15) targets

/-- Wait for a job. -/
def waitForJob (m : Machine) (job : Job) : Machine :=
  let isLater := m.clock < job.clock || (m.clock = job.clock && m.turn ≤ job.turn)
  let m := if isLater then { m.wait (job.clock - m.clock) with turn := job.turn + 1 } else m
  m.finish job.status

/-- Wait for jobs, or for all. -/
def wait (m : Machine) (words : List String) : Machine :=
  let words := if words.head? = some "--" then words.drop 1 else words
  if words.isEmpty then (m.jobs.foldl waitForJob m).finish 0
  else eachWord m words fun m word =>
    if Text.startsWith word "%" then m.fail ("No such job: " ++ word)
    else withCount m word fun n =>
      match m.jobs.find? (·.number = n) with
      | none => m.finish 127
      | some job =>
        let isFresh := m.clock < job.clock || (m.clock = job.clock && m.turn ≤ job.turn)
        let waited := waitForJob m job
        match (job.signal.filter fun _ => isFresh || m.clock = job.clock).bind Signal.saidOf with
        | some report => waited.complain report
        | none => waited

/-! ## Small commands -/

/-- Print or set the mode that new files do not have. -/
def umask (m : Machine) (words : List String) : Machine :=
  withOptions m "S" words fun letters rest =>
    let octal (n : Nat) : String :=
      let digits := Nat.toDigits 8 n
      String.ofList (List.replicate (4 - digits.length) '0' ++ digits)
    let symbols (n : Nat) : String :=
      String.join ((["r", "w", "x"].zip [4, 2, 1]).map fun entry =>
        if n / entry.2 % 2 = 0 then entry.1 else "")
    match rest with
    | [] =>
      let text := if letters.isEmpty then octal m.mask
        else "u=" ++ symbols (m.mask / 64) ++ ",g=" ++ symbols (m.mask / 8) ++ ",o=" ++
          symbols m.mask
      (m.printText (text ++ "\n")).finish 0
    | word :: _ =>
      if word.toList.head?.any Char.isDigit then
        if word.toList.all isOctal then
          { m with mask := Spelled.numeral 8 word.toList % 512 }.finish 0
        else m.fail ("Illegal number: " ++ word)
      else m.fail ("Illegal mode: " ++ word)

/-- Print a limit of programs; setting one changes nothing that a script can see. -/
def ulimit (m : Machine) (words : List String) : Machine :=
  withOptions m "HSatfdscmlpnvwr" words fun _ rest =>
    match rest with
    | [] => (m.printText "unlimited\n").finish 0
    | word :: _ =>
      if word = "unlimited" || (word.toList.all Char.isDigit && !word.isEmpty) then m.finish 0
      else m.fail "bad number"

/-- Print by a format. -/
def printf (m : Machine) (words : List String) : Machine :=
  withOptions m "" words fun _ rest =>
    match rest with
    | [] => m.fail "usage: printf format [arg ...]"
    | format :: arguments =>
      let done := Shell.printf format arguments
      let m := done.complaints.foldl
        (fun m entry => m.warn (entry.1 ++ ": " ++ entry.2.message)) m
      let m := match done.fault with
        | some fault => m.fail fault.message
        | none => m.finish (if done.complaints.isEmpty then 0 else 1)
      m.printText (String.ofList done.shown.reverse)

/-- Leave loops, or go on with their next round. -/
def leaveLoops (m : Machine) (halt : Nat → Halt) (words : List String) : Machine :=
  let leave (count : Nat) : Machine :=
    let count := min count m.loops
    if count = 0 then m.finish 0 else (m.finish 0).stop (halt count)
  match words with
  | [] => leave 1
  | word :: _ =>
    withCount m word fun n => if n = 0 then m.fail ("Illegal number: " ++ word) else leave n

/-- End the shell or a function with a status. What the shell does at a signal or at its end leaves
the status as it was before, unless it ends with one of its own. -/
def leave (m : Machine) (halt : Halt) (words : List String) : Machine :=
  match words with
  | [] =>
    let kept := if halt = .exited then m.statusBefore else none
    (m.finish (kept.getD m.status)).stop halt
  | word :: _ => withCount m word fun n => (m.finish n).stop halt

/-- Run a command that the shell runs itself and that runs no other commands. -/
def run? (m : Machine) (name : String) (words : List String) : Option Machine :=
  match name with
  | ":" | "true" => some (m.finish 0)
  | "false" => some (m.finish 1)
  | "echo" => some ((m.printText (echo words)).finish 0)
  | "printf" => some (printf m words)
  | "test" | "[" =>
    some (match Condition.outcome m name words with
      | .ok outcome => m.finish (if outcome then 0 else 1)
      | .error fault => m.fail fault.message)
  | "break" => some (leaveLoops m .broken words)
  | "continue" => some (leaveLoops m .continued words)
  | "exit" => some (leave m .exited words)
  | "return" => some (leave m .returned words)
  | "cd" | "chdir" => some (changeDirectory m words)
  | "pwd" => some (withOptions m "LP" words fun _ _ => (m.printText (m.directory ++ "\n")).finish 0)
  | "export" =>
    some (mark m name Binding.isExported (fun binding => { binding with isExported := true }) words)
  | "readonly" =>
    some (mark m name Binding.isReadOnly (fun binding => { binding with isReadOnly := true }) words)
  | "unset" => some (unset m words)
  | "local" => some (own m words)
  | "set" => some (set m words)
  | "shift" => some (shift m words)
  | "getopts" => some (getOption m words)
  | "read" => some (read m words)
  | "alias" => some (setAliases m words)
  | "unalias" => some (unsetAliases m words)
  | "type" => some (describeAll m words)
  | "hash" => some (remember m words)
  | "trap" => some (trap m words)
  | "kill" => some (kill m words)
  | "wait" => some (wait m words)
  | "jobs" => some (m.finish 0)
  | "fg" | "bg" => some (m.fail "No current job")
  | "umask" => some (umask m words)
  | "ulimit" => some (ulimit m words)
  | "times" =>
    let line := "0m0.000000s 0m0.000000s\n"
    some ((m.printText (line ++ line)).finish 0)
  | _ => none

end NfvCatalog.Shell.Builtin
