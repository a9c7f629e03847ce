import NfvCatalog.Shell.Utility.Words

/-! # Programs that run others

The programs that run a program of their arguments: under another environment, for a limited time,
or with words that they read. How a program is run is left to `start`.
-/

namespace NfvCatalog.Shell.Utility

/-- Why a program does not start, as it is said. -/
def spawnReason : SpawnError → String
  | .file error => error.reason
  | .tooManyLevels => "Too many levels of symbolic links"
  | .badFormat => "Exec format error"
  | .hasNul => FileError.hasNul.reason

/-- The status of a program that was to run one that does not start. -/
def spawnStatus (error : SpawnError) : Nat := if error = .file .notFound then 127 else 126

/-- The start of a program under the search path of a machine. -/
def found (m : Machine) (name : String) (arguments : List String) : Except SpawnError Launch :=
  Launch.find m.tree m.place m.searchPath true name arguments

section

variable (start : Machine → Launch → Machine)

/-- Run a program in the place of the one that runs. -/
def runInPlace (m : Machine) (launch : Launch) : Machine :=
  { start { m with name := launch.name } launch with name := m.name }

/-- Run a program beside the one that runs, and wait for it. -/
def runBeside (m : Machine) (launch : Launch) : Machine :=
  m.after (start (m.child launch.name) launch)

/-! ## Environments -/

/-- The words of a text, in which quotes keep blanks. `fuel` bounds the characters. -/
def splitWords : Nat → Option (List Char) → List Char → List String
  | 0, word?, _ => (word?.map fun word => String.ofList word.reverse).toList
  | fuel + 1, word?, cs =>
    let done := (word?.map fun word => String.ofList word.reverse).toList
    match cs with
    | [] => done
    | c :: rest =>
      if c = ' ' || c = '\t' || c = '\n' then done ++ splitWords fuel none rest
      else if c = '\'' || c = '"' then
        let inside := rest.takeWhile (· ≠ c)
        splitWords fuel (some (inside.reverse ++ word?.getD [])) (rest.drop (inside.length + 1))
      else if c = '\\' then
        match rest with
        | d :: rest => splitWords fuel (some (d :: word?.getD [])) rest
        | [] => done
      else splitWords fuel (some (c :: word?.getD [])) rest

/-- Run a program with variables set, or print the variables. -/
def env (m : Machine) (words : List String) : Machine :=
  let split (word : String) : Option String :=
    if Text.startsWith word "--split-string=" then some (String.ofList (word.toList.drop 15))
    else if Text.startsWith word "-S" && 2 < word.length then
      some (String.ofList (word.toList.drop 2))
    else none
  let words := match words with
    | "-S" :: text :: rest | "--split-string" :: text :: rest =>
      splitWords (text.length + 1) none text.toList ++ rest
    | word :: rest =>
      match split word with
      | some text => splitWords (text.length + 1) none text.toList ++ rest
      | none => words
    | [] => []
  let rules := Usage.ofLetters "iu:0C:S:v" [('i', "ignore-environment"), ('u', "unset"),
    ('0', "null"), ('C', "chdir"), ('S', "split-string"), ('v', "debug")]
  withGiven m ⟨rules, false, 125⟩ words fun given =>
    let isBare := given.has 'i' || given.operands.head? = some "-"
    let operands :=
      if given.operands.head? = some "-" then given.operands.drop 1 else given.operands
    let assigned := operands.takeWhile fun word => word.toList.contains '='
    let command := operands.drop assigned.length
    let kept := if isBare then { m with bindings := [] } else m
    let kept := (given.values 'u').foldl Machine.unset kept
    let changed := assigned.foldl (fun m word =>
      let name := String.ofList (word.toList.takeWhile (· ≠ '='))
      let value := String.ofList (word.toList.drop (name.length + 1))
      m.bind name { value := some value, isExported := true }) kept
    let place? : Except FileError Machine := match given.value? 'C' with
      | none => .ok changed
      | some path =>
        match changed.entryAt path with
        | .ok .directory =>
          .ok { changed with directory :=
            if Text.startsWith path "/" then path else m.directory ++ "/" ++ path }
        | .ok _ => .error .notDirectory
        | .error error => .error error
    match place?, command with
    | .error error, _ =>
      fault m 125 ("cannot change directory to " ++ inQuotes ((given.value? 'C').getD "") ++ ": " ++
        error.reason)
    | .ok changed, [] =>
      let done := printenv changed (if given.has '0' then ["-0"] else [])
      { done with bindings := m.bindings }
    | .ok changed, name :: arguments =>
      if given.has '0' then misuse m 125 "cannot specify --null (-0) with command"
      else match found changed name arguments with
        | .ok launch => runInPlace start changed launch
        | .error error => fault m (spawnStatus error) (inQuotes name ++ ": " ++ spawnReason error)

/-! ## Limits -/

/-- Run a program for a limited time. -/
def timeout (m : Machine) (words : List String) : Machine :=
  let rules := ⟨'P', "preserve-status", .never⟩ :: ⟨'F', "foreground", .never⟩ ::
    Usage.ofLetters "k:s:v" [('k', "kill-after"), ('s', "signal"), ('v', "verbose")]
  withGiven m ⟨rules, false, 125⟩ words fun given =>
    let signal? := match given.value? 's' with
      | some text => Signal.ofText? (if Text.startsWith (Text.asciiUpper text) "SIG" then
          String.ofList (text.toList.drop 3) else text)
      | none => Signal.ofNumber? 15
    match given.operands, signal? with
    | time :: name :: arguments, some signal =>
      match milliseconds? time with
      | none => misuse m 125 ("invalid time interval " ++ inQuotes time)
      | some length =>
        match found m name arguments with
        | .error error =>
          fault m (spawnStatus error) ("failed to run command " ++ inQuotes name ++ ": " ++
            spawnReason error)
        | .ok launch =>
          let limit := match length with
            | some 0 | none => m.limit
            | some length => min m.limit (m.clock + length)
          let done := start { m.child launch.name with limit } launch
          let isLate := done.halt = some .outOfTime && limit < m.limit
          if isLate then
            let ended :=
              { m.after { done with halt := none, clock := limit } with limit := m.limit }
            if signal.number = 9 then ended.stop (.killed 9)
            else ended.finish (if given.has 'P' then 128 + signal.number else 124)
          else m.after done
    | _ :: _ :: _, none =>
      misuse m 125 (inQuotes ((given.value? 's').getD "") ++ ": invalid signal")
    | _, _ =>
      (m.complain ("Try '" ++ m.name ++ " --help' for more information.")).finish 125

/-- Run a program that is not changed in a way that scripts can see. -/
def plainly (m : Machine) (usage : Usage) (words : List String) : Machine :=
  withGiven m usage words fun given =>
    match given.operands with
    | [] => misuse m 125 "missing operand"
    | name :: arguments =>
      match found m name arguments with
      | .ok launch => runInPlace start m launch
      | .error error =>
        let lead := if m.name = "nohup" then "failed to run command " ++ inQuotes name
          else inQuotes name
        fault m (spawnStatus error) (lead ++ ": " ++ spawnReason error)

/-- Run a program with another rank, or print the rank. -/
def nice (m : Machine) (words : List String) : Machine :=
  if words.isEmpty then (m.printText "0\n").finish 0
  else plainly start m ⟨Usage.ofLetters "n:" [('n', "adjustment")], false, 125⟩ words

/-! ## Words that are read -/

/-- The words of an input: separated by blanks, in which quotes and backslashes keep them. Nothing
if a quote is not closed. `fuel` bounds the characters. -/
def inputWords : Nat → Option (List Char) → List Char → Except Char (List String)
  | 0, _, _ => .ok []
  | fuel + 1, word?, cs =>
    let done := (word?.map fun word => String.ofList word.reverse).toList
    match cs with
    | [] => .ok done
    | c :: rest =>
      if Spelled.isSpace c then (inputWords fuel none rest).map (done ++ ·)
      else if c = '\'' || c = '"' then
        let inside := rest.takeWhile fun d => d ≠ c && d ≠ '\n'
        if (rest.drop inside.length).head? = some c then
          inputWords fuel (some (inside.reverse ++ word?.getD [])) (rest.drop (inside.length + 1))
        else .error c
      else if c = '\\' then
        match rest with
        | d :: rest => inputWords fuel (some (d :: word?.getD [])) rest
        | [] => .ok done
      else inputWords fuel (some (c :: word?.getD [])) rest

/-- Words in groups of at most so many. `fuel` bounds the groups. -/
def inGroups (size : Nat) : Nat → List String → List (List String)
  | 0, _ => []
  | fuel + 1, words =>
    if words.isEmpty then [] else words.take size :: inGroups size fuel (words.drop size)

/-- A text with a word in place of each occurrence of a mark. `fuel` bounds the characters. -/
def withWord (mark word : List Char) : Nat → List Char → List Char
  | 0, cs => cs
  | fuel + 1, cs =>
    match cs with
    | [] => []
    | c :: rest =>
      if !mark.isEmpty && mark.isPrefixOf cs then
        word ++ withWord mark word fuel (cs.drop mark.length)
      else c :: withWord mark word fuel rest

/-- Run a program with the words of the input as arguments. -/
def xargs (m : Machine) (words : List String) : Machine :=
  let rules := Usage.ofLetters "0a:d:E:I:L:n:prs:txP:" [('0', "null"), ('a', "arg-file"),
    ('d', "delimiter"), ('I', "replace"), ('L', "max-lines"), ('n', "max-args"),
    ('r', "no-run-if-empty"), ('t', "verbose"), ('P', "max-procs")]
  withGiven m ⟨rules, false, 1⟩ words fun given =>
    let (m, content) := match given.value? 'a' with
      | some path => contentOf m path
      | none => contentOf m "-"
    let cs := content.toOption.getD []
    let mark? : Option Char := if given.has '0' then some '\x00'
      else (given.value? 'd').map fun text =>
        ((echoed (text.length + 1) text.toList).1.head?).getD '\x00'
    let lines := (linesOf cs).filter (!·.all Spelled.isSpace)
    let items : Except Char (List String) := match mark?, given.has 'I' with
      | some mark, _ =>
        let parts := Text.splitChars mark cs
        .ok ((if parts.getLast? = some [] then parts.dropLast else parts).map String.ofList)
      | none, true => .ok (lines.map fun line => String.ofList (line.dropWhile Spelled.isSpace))
      | none, false => inputWords (cs.length + 1) none cs
    let command := if given.operands.isEmpty then ["echo"] else given.operands
    let count (letter : Char) : Option Nat := (given.value? letter).bind Spelled.count?
    match items with
    | .error quote =>
      fault m 1 ("unmatched " ++ (if quote = '"' then "double" else "single") ++
        " quote; by default quotes are special to xargs unless you use the -0 option")
    | .ok items =>
      let calls : List (List String) := match given.value? 'I', count 'L', count 'n' with
        | some mark, _, _ =>
          items.map fun item => command.map fun word =>
            String.ofList (withWord mark.toList item.toList (word.length + 1) word.toList)
        | none, some size, _ =>
          (inGroups size (lines.length + 1) (lines.map String.ofList)).map fun group =>
            command ++ group.flatMap fun line =>
              (inputWords (line.length + 1) none line.toList).toOption.getD []
        | none, none, some size =>
          (inGroups (max size 1) (items.length + 1) items).map (command ++ ·)
        | none, none, none => if items.isEmpty && given.has 'r' then [] else [command ++ items]
      let calls := if calls.isEmpty && !given.has 'r' && !given.has 'I' then [command] else calls
      let index := m.channels.size
      let led := { m.lead 0 none with channels := m.channels.push .nowhere }.lead 0 (some index)
      let step (state : Machine × Bool) (call : List String) : Machine × Bool :=
        if state.2 then state
        else match call with
          | [] => state
          | name :: arguments =>
            let m := if given.has 't' then state.1.complain (Text.join " " call) else state.1
            match found m name arguments with
            | .error error =>
              (fault m (spawnStatus error) (name ++ ": " ++ spawnReason error), true)
            | .ok launch =>
              let done := runBeside start m launch
              if done.status = 0 then (done.finish m.status, done.halt.isSome)
              else if done.status = 255 then
                (fault done 124 (name ++ ": exited with status 255; aborting"), true)
              else if 128 < done.status then
                (fault done 125 (name ++ ": terminated by signal " ++ toString (done.status - 128)),
                  true)
              else (done.finish 123, done.halt.isSome)
      let done := (calls.foldl step (led.finish 0, false)).1
      { done with streams := m.streams }

end

end NfvCatalog.Shell.Utility
