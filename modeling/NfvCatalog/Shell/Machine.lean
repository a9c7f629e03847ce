import NfvCatalog.Files.Tree
import NfvCatalog.Shell.Launch
import NfvCatalog.Shell.Script
import NfvCatalog.Shell.Signal
import NfvCatalog.Text.Keyed
import NfvCatalog.Text.Utf8

/-! # The state of a running script

What a script can see and change: files, variables, functions, arguments, the streams it reads and
writes, and a clock that only waiting advances. Files, streams and time are shared with the shells
and programs that a shell starts; all else is its own.
-/

namespace NfvCatalog.Shell

/-- What was written at a time, and the number of the job that wrote it, if it is one. The turn
orders what is written at one time. -/
structure Chunk where
  clock : Nat
  turn : Nat
  job : Nat
  bytes : List UInt8
deriving Repr, Inhabited

/-- Where a stream leads: to a place in a file, to what is left of a text, which may go on without
end, to a collection, the last chunk first, or nowhere. -/
inductive Channel where
  | file (path : String) (offset : Nat) (appends reads writes : Bool)
  | incoming (rest : List UInt8) (isEndless : Bool)
  | collected (chunks : List Chunk)
  | nowhere
deriving Repr, Inhabited

/-- The bytes of a collection, in the order of their times. -/
def Channel.bytes : Channel → List UInt8
  | .collected chunks =>
    (chunks.reverse.mergeSort fun a b =>
      a.clock < b.clock || (a.clock = b.clock && a.turn ≤ b.turn)).flatMap Chunk.bytes
  | _ => []

/-- Why commands that follow are not run: the shell ends; a command of the shell failed in a way
that ends it; a function returns; so many loops end, or go on with their next round; a signal ended
the shell; time is up. -/
inductive Halt where
  | exited
  | failed
  | returned
  | broken (loops : Nat)
  | continued (loops : Nat)
  | killed (signal : Nat)
  | outOfTime
deriving DecidableEq, Repr, Inhabited

/-- What is kept under a name. -/
structure Binding where
  value : Option String := none
  isExported : Bool := false
  isReadOnly : Bool := false
deriving DecidableEq, Repr, Inhabited

/-- A command that runs beside the shell: its number, how it ends and when. -/
structure Job where
  number : Nat
  status : Nat
  signal : Option Nat
  clock : Nat
  turn : Nat
deriving Repr, Inhabited

/-- The state of a running shell. -/
structure Machine where
  tree : FileTree
  channels : Array Channel := #[]
  /-- The channels of the open streams. -/
  streams : List (Nat × Nat) := []
  /-- The number that the next process gets. -/
  nextProcess : Nat := 4242
  /-- Signals for processes that are not running now. -/
  sent : List (Nat × Nat) := []
  process : Nat := 4241
  /-- The processes that wait for this one, the nearest first. -/
  ancestors : List Nat := [4240]
  isSubshell : Bool := false
  /-- The number of the job that runs here, if it is one. -/
  job : Nat := 0
  directory : String := "/work"
  bindings : List (String × Binding) := []
  functions : List (String × Command) := []
  aliases : List (String × String) := []
  name : String := "sh"
  arguments : List String := []
  /-- The letters of the options that are set. -/
  options : List Char := []
  /-- What to run at signals, and at the end. -/
  traps : List (String × String) := []
  /-- What names were bound to before a function made them its own. -/
  saved : List (String × Option Binding) := []
  /-- The options before a function made them its own. -/
  savedOptions : Option (List Char) := none
  /-- The number of functions and of loops that are under way. -/
  depth : Nat := 0
  loops : Nat := 0
  /-- The line that is run, and the command of the shell that is. -/
  line : Nat := 1
  caller : Option String := none
  /-- The word and the place in it that options of a script are read from. -/
  optionIndex : Nat := 1
  optionPlace : Nat := 0
  /-- The mode that new files do not have. -/
  mask : Nat := 18
  status : Nat := 0
  /-- The status of the last command whose output was taken. -/
  takenStatus : Nat := 0
  halt : Option Halt := none
  /-- Whether the command that runs is a test, which may fail. -/
  tested : Bool := false
  /-- The status that a shell had before what it does at a signal or at its end. -/
  statusBefore : Option Nat := none
  /-- Whether something could not be printed. -/
  hasLostOutput : Bool := false
  jobs : List Job := []
  clock : Nat := 0
  turn : Nat := 0
  limit : Nat
deriving Inhabited

namespace Machine

/-! ## Status -/

/-- Set the status of the last command. -/
def finish (m : Machine) (status : Nat) : Machine := { m with status }

/-- Stop the commands that follow. -/
def stop (m : Machine) (halt : Halt) : Machine := { m with halt := some halt }

/-- End a strict script whose last command failed, unless that command is a test. -/
def endIfFailed (m : Machine) : Machine :=
  if m.options.contains 'e' && !m.tested && m.status ≠ 0 && m.halt.isNone then m.stop .exited else m

/-- A time that nothing waits for. Commands beside a shell have time up to here. -/
def endOfTime : Nat := 1000000000000

/-- Let time pass. When the limit is reached nothing more is run. -/
def wait (m : Machine) (milliseconds : Nat) : Machine :=
  let clock := m.clock + milliseconds
  if clock < m.limit then { m with clock } else { m with clock, halt := some .outOfTime }

/-! ## Variables -/

/-- What is kept under a name. -/
def binding (m : Machine) (name : String) : Binding := (Keyed.get? m.bindings name).getD {}

/-- The value of a variable. -/
def valueOf? (m : Machine) (name : String) : Option String := (m.binding name).value

/-- Keep something under a name. -/
def bind (m : Machine) (name : String) (binding : Binding) : Machine :=
  { m with bindings := Keyed.put name binding m.bindings }

/-- Set a variable. With an option of the shell it is also exported. -/
def set (m : Machine) (name value : String) : Machine :=
  let old := m.binding name
  let isExported := old.isExported || m.options.contains 'a'
  let m :=
    if name = "OPTIND" then
      { m with optionIndex := max 1 ((Spelled.count? value).getD 1), optionPlace := 0 }
    else m
  m.bind name { old with value := some value, isExported }

/-- Forget a variable. -/
def unset (m : Machine) (name : String) : Machine :=
  { m with bindings := m.bindings.filter (·.1 ≠ name) }

/-- Bind a name as before, or not at all. -/
def restore (m : Machine) (entry : String × Option Binding) : Machine :=
  match entry.2 with
  | some binding => m.bind entry.1 binding
  | none => m.unset entry.1

/-- Whether a variable cannot be set. -/
def isReadOnly (m : Machine) (name : String) : Bool := (m.binding name).isReadOnly

/-- The place of a name among others where no other order is asked for. -/
def nameRank (name : String) : Nat :=
  let numbers := name.toList.map Char.toNat
  ((numbers.headD 0) * 16 + numbers.foldl (· + ·) 0) % 39

/-- The variables that programs are given, in the order of their ranks. -/
def exported (m : Machine) : List (String × String) :=
  let given := m.bindings.filterMap fun (name, binding) =>
    if binding.isExported then binding.value.map fun value => (name, value) else none
  given.mergeSort fun a b => nameRank a.1 ≤ nameRank b.1

/-- The directories in which programs are found. -/
def searchPath (m : Machine) : String := (m.valueOf? "PATH").getD Launch.standardPath

/-- The letters of the options in the order in which they are shown. -/
def optionLetters : List (Char × String) :=
  [('e', "errexit"), ('f', "noglob"), ('I', "ignoreeof"), ('i', "interactive"), ('m', "monitor"),
    ('n', "noexec"), ('s', "stdin"), ('x', "xtrace"), ('v', "verbose"), ('V', "vi"), ('E', "emacs"),
    ('C', "noclobber"), ('a', "allexport"), ('b', "notify"), ('u', "nounset"),
    ('p', "privileged"), (' ', "nolog"), (' ', "debug")]

/-- The separator of the fields of all arguments in one text. -/
def joiner (m : Machine) : String :=
  match m.valueOf? "IFS" with
  | some separators => String.ofList (separators.toList.take 1)
  | none => " "

/-- The characters that separate fields. -/
def separators (m : Machine) : List Char := ((m.valueOf? "IFS").getD " \t\n").toList

/-- The value of a parameter that is no list of arguments. -/
def parameter? (m : Machine) (name : String) : Option String :=
  match name with
  | "#" => some (toString m.arguments.length)
  | "?" => some (toString m.status)
  | "$" => some (toString m.process)
  | "-" => some (String.ofList ((optionLetters.map Prod.fst).filter m.options.contains))
  | "!" => m.jobs.getLast?.map fun job => toString job.number
  | "0" => some m.name
  | _ =>
    if name.toList.all Char.isDigit then
      match Digits.nat? 10 name.toList with
      | some place => if place = 0 then some m.name else m.arguments[place - 1]?
      | none => none
    else m.valueOf? name

/-! ## Paths -/

/-- The directory that the tree hangs in. -/
def root : String := "/work"

/-- A path as the tree knows it. A path that leads out of the tree is kept from its root. -/
def place (m : Machine) (path : String) : String :=
  let path := Octets.decoded path
  if path.isEmpty then path
  else
    let full := if Path.isAbsolute path then path else Path.join (Octets.decoded m.directory) path
    if full = root then "."
    else if Text.startsWith full (root ++ "/") then
      let inside := String.ofList (full.toList.drop (root.length + 1))
      if inside.isEmpty then "." else inside
    else full

/-- What stands at a path. Some directories are there outside of the tree. -/
def entryAt (m : Machine) (path : String) : Except FileError FileEntry :=
  let place := m.place path
  match m.tree.at? place with
  | .error .notFound =>
    if Launch.isOuterDirectory place then .ok .directory
    else if (Launch.utilityAt? place).isSome then .ok (.file (.bytes []) true)
    else .error .notFound
  | found => found

/-- Whether a path is that of a device. -/
def isDevice (m : Machine) (path : String) : Bool :=
  ["/dev/null", "/dev/zero", "/dev/full", "/dev/random", "/dev/urandom", "/dev/tty"].contains
    (m.place path)

/-- Whether a path is that of a device that gives zeros without end. -/
def isZeros (m : Machine) (path : String) : Bool := m.place path = "/dev/zero"

/-- More zeros than a program that ends at some place reads. -/
def manyZeros : List UInt8 := List.replicate 140000 0

/-- The bytes of a file. -/
def bytesOf (m : Machine) (path : String) : Except FileError (List UInt8) :=
  match m.tree.read (m.place path) with
  | .ok (.bytes bytes) => .ok bytes
  | .ok (.archive _) => .ok []
  | .error error =>
    if Launch.isOuterDirectory (m.place path) then .error .isDirectory else .error error

/-- The names in a directory, sorted by their bytes. -/
def namesIn (m : Machine) (path : String) : List String :=
  let names := match m.tree.locate (m.place path) with
    | .ok place =>
      if m.tree.entryAt? place = some FileEntry.directory then m.tree.names place else []
    | .error _ => []
  (names.map Octets.ofText).mergeSort Text.le

/-! ## Streams -/

/-- The channel of a stream. -/
def channel? (m : Machine) (stream : Nat) : Option (Nat × Channel) := do
  let index ← (m.streams.find? (·.1 = stream)).map Prod.snd
  return (index, ← m.channels[index]?)

/-- Lead a stream to a channel, or close it. -/
def lead (m : Machine) (stream : Nat) (channel : Option Nat) : Machine :=
  let others := m.streams.filter (·.1 ≠ stream)
  { m with streams := (channel.map fun index => (stream, index)).toList ++ others }

/-- Open a channel for a stream. -/
def openChannel (m : Machine) (stream : Nat) (channel : Channel) : Machine :=
  let index := m.channels.size
  { m with channels := m.channels.push channel }.lead stream (some index)

/-- Bytes put into a text at a place. -/
def overwritten (old : List UInt8) (offset : Nat) (bytes : List UInt8) : List UInt8 :=
  let front := old.take offset
  front ++ List.replicate (offset - front.length) 0 ++ bytes ++ old.drop (offset + bytes.length)

/-- Write bytes to a stream. What cannot be written gives nothing. -/
def write? (m : Machine) (stream : Nat) (bytes : List UInt8) : Option Machine := do
  let (index, channel) ← m.channel? stream
  match channel with
  | .nowhere => return m
  | .incoming .. => none
  | .collected chunks =>
    let chunk : Chunk := ⟨m.clock, m.turn, m.job, bytes⟩
    return { m with channels := m.channels.setIfInBounds index (.collected (chunk :: chunks)) }
  | .file path offset appends reads writes =>
    if !writes then none
    else
      let old := match m.tree.read path with
        | .ok (.bytes old) => old
        | _ => []
      let offset := if appends then old.length else offset
      let tree := match m.tree.write path (.bytes (overwritten old offset bytes)) with
        | .ok tree => if m.tree.has path then tree else m.tree
        | .error _ => m.tree
      let channel := Channel.file path (offset + bytes.length) appends reads writes
      return { m with tree, channels := m.channels.setIfInBounds index channel }

/-- Print bytes. -/
def print (m : Machine) (bytes : List UInt8) : Machine :=
  if bytes.isEmpty then m else (m.write? 1 bytes).getD { m with hasLostOutput := true }

/-- Print a text of bytes. -/
def printText (m : Machine) (text : String) : Machine := m.print (Octets.bytes text)

/-- Print a line about a fault. -/
def complain (m : Machine) (text : String) : Machine :=
  (m.write? 2 (Octets.bytes (text ++ "\n"))).getD m

/-- What is left to be read from a stream. -/
def remaining (m : Machine) (stream : Nat) : Except FileError (List UInt8) :=
  match m.channel? stream with
  | some (_, .incoming rest _) => .ok rest
  | some (_, .nowhere) => .ok []
  | some (_, .file path offset _ reads _) =>
    if !reads then .error .badStream
    else match m.tree.read path with
      | .ok (.bytes bytes) => .ok (bytes.drop offset)
      | .ok (.archive _) => .ok []
      | .error error => if error = .isDirectory then .error error else .ok []
  | _ => .error .badStream

/-- Go on in a stream behind so many bytes. -/
def skip (m : Machine) (stream count : Nat) : Machine :=
  match m.channel? stream with
  | some (index, .incoming rest isEndless) =>
    let left := Channel.incoming (rest.drop count) isEndless
    { m with channels := m.channels.setIfInBounds index left }
  | some (index, .file path offset appends reads writes) =>
    { m with
      channels := m.channels.setIfInBounds index
        (.file path (offset + count) appends reads writes) }
  | _ => m

/-- Whether a stream goes on without end. -/
def isEndless (m : Machine) (stream : Nat) : Bool :=
  match m.channel? stream with
  | some (_, .incoming _ isEndless) => isEndless
  | _ => false

/-- Whether a stream is a file, in which one can go back. -/
def canGoBack (m : Machine) (stream : Nat) : Bool :=
  match m.channel? stream with
  | some (_, .file ..) => true
  | _ => false

/-! ## Complaints -/

/-- A fault said with the name of the script, the line and the command of the shell. -/
def complainAt (m : Machine) (line : Nat) (text : String) : Machine :=
  let caller := match m.caller with
    | some caller => caller ++ ": "
    | none => ""
  m.complain (m.name ++ ": " ++ toString line ++ ": " ++ caller ++ text)

/-- Say a fault in the line that is run. -/
def warn (m : Machine) (text : String) : Machine := m.complainAt m.line text

/-- Say a fault and stop. -/
def fail (m : Machine) (text : String) : Machine := ((m.warn text).finish 2).stop .failed

/-! ## Shells and programs beside a shell -/

/-- The machine of a shell that is started as a copy of another. It waits for nothing that the
other one started, and its traps are those that ignore signals. -/
def forked (m : Machine) : Machine :=
  { m with
    traps := m.traps.filter (·.2.isEmpty), jobs := [], isSubshell := true, statusBefore := none
    hasLostOutput := false }

/-- The machine of a program that takes the place of a shell: of the shell's own state it has the
variables that are given to programs. -/
def replaced (m : Machine) (name : String) : Machine :=
  { m.forked with
    name, isSubshell := false, functions := [], aliases := [], arguments := [], options := []
    bindings := m.exported.map fun entry => (entry.1, { value := some entry.2, isExported := true })
    saved := [], savedOptions := none, depth := 0, loops := 0, line := 0, caller := none
    optionIndex := 1, optionPlace := 0, status := 0, takenStatus := 0, tested := false }

/-- The machine of a program that a shell starts and waits for. -/
def child (m : Machine) (name : String) : Machine :=
  { m.replaced name with
    process := m.nextProcess, nextProcess := m.nextProcess + 1
    ancestors := m.process :: m.ancestors }

/-- Keep what a process leaves behind: files, streams, time and status. -/
def after (m inner : Machine) : Machine :=
  let status := match inner.halt with
    | some (.killed signal) => 128 + signal
    | _ => inner.status % 256
  { m with
    tree := inner.tree, channels := inner.channels, sent := inner.sent
    nextProcess := inner.nextProcess, status, clock := inner.clock, turn := inner.turn
    halt := if inner.halt = some .outOfTime then inner.halt else m.halt }

/-- The signal that ended a process. -/
def signal? (m : Machine) : Option Nat :=
  match m.halt with
  | some (.killed signal) => some signal
  | _ => none

/-- Keep what a process leaves behind that the shell has waited for, and say what ended it. -/
def afterWaiting (m inner : Machine) : Machine :=
  let m := m.after inner
  match inner.signal?.bind Signal.saidOf with
  | some report => m.complain report
  | none => m

/-- Read a stream to its end. What has no end takes all time. -/
def readAll (m : Machine) (stream : Nat) : Machine × Except FileError (List UInt8) :=
  match m.remaining stream with
  | .ok bytes =>
    let m := m.skip stream bytes.length
    (if m.isEndless stream then m.stop .outOfTime else m, .ok bytes)
  | .error error => (m, .error error)

end Machine

end NfvCatalog.Shell
