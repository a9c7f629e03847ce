import NfvCatalog.Shell.Call
import NfvCatalog.Shell.Expansion
import NfvCatalog.Shell.Reader
import NfvCatalog.Shell.Redirection
import NfvCatalog.Shell.Utility

/-! # Running scripts

A script changes the state of its machine command by command; each line is run before the next one
is read. `fuel` bounds the nesting of commands and the rounds of loops; a script that needs more
never ends, so it runs out of time.
-/

namespace NfvCatalog.Shell

/-- The most functions that can be under way. -/
def depthLimit : Nat := 1000

/-- What follows a round of a loop: the machine, and whether there is another round. -/
def afterRound (m : Machine) : Machine × Bool :=
  match m.halt with
  | none => (m, true)
  | some (.broken loops) =>
    ({ m with halt := if loops ≤ 1 then none else some (.broken (loops - 1)) }, false)
  | some (.continued loops) =>
    if loops ≤ 1 then ({ m with halt := none }, true)
    else ({ m with halt := some (.continued (loops - 1)) }, false)
  | some _ => (m, false)

/-- The machine of a script behind one that it has run in a function or a file of its own. -/
def behindReturn (m : Machine) : Machine :=
  { m with halt := if m.halt = some .returned then none else m.halt }

/-- The machine of a command behind one of its own that was led to other streams. -/
def withStreamsOf (m done : Machine) : Machine :=
  { done with
    streams := m.streams
    channels := if done.halt.isNone then done.channels.shrink m.channels.size else done.channels }

/-- Show a simple command before it is run. -/
def traced (m : Machine) (streams : List (Nat × Nat)) (assignments : List (String × String))
    (fields : List String) : Machine :=
  if !m.options.contains 'x' then m
  else
    let lead := (m.valueOf? "PS4").getD "+ "
    let shown := assignments.map (fun entry => entry.1 ++ "=" ++ entry.2) ++ fields
    { { m with streams }.complain (lead ++ Text.join " " shown) with streams := m.streams }

/-- The bytes of a command's output as a text, without the line breaks at its end. -/
def takenText (bytes : List UInt8) : String :=
  let kept := (bytes.reverse.dropWhile (· = 10)).reverse
  Octets.ofBytes (kept.filter (· ≠ 0))

mutual

/-- Let signals take effect that were sent to a shell. -/
def deliver : Nat → Machine → Machine
  | 0, m => m.stop .outOfTime
  | fuel + 1, m =>
    if m.sent.isEmpty || m.isSubshell || m.halt.isSome then m
    else
      let (mine, sent) := m.sent.partition (·.1 = m.process)
      let m := { m with sent }
      let signals := Signal.all.filter fun signal => mine.any (·.2 = signal.number)
      let action? (signal : Signal) : Option String :=
        if signal.canBeCaught then Keyed.get? m.traps signal.name else none
      let isFatal (signal : Signal) : Bool :=
        (action? signal).isNone && (signal.ends || signal.stops)
      match signals.find? isFatal with
      | some signal => m.stop (if signal.ends then .killed signal.number else .outOfTime)
      | none => signals.foldl (fun m signal =>
          match action? signal with
          | none => m
          | some action =>
            let done := evaluate fuel { m with statusBefore := some m.status } action
            { done with
              statusBefore := m.statusBefore
              status := if done.halt.isNone then m.status else done.status }) m

/-- Leave a shell: what it was told to do at its end is done. -/
def leave : Nat → Machine → Machine
  | 0, m => m.stop .outOfTime
  | fuel + 1, m =>
    match m.halt, Keyed.get? m.traps "EXIT" with
    | some (.killed _), _ | some .outOfTime, _ | _, none => m
    | _, some action =>
      let start := { m with
        traps := m.traps.filter (·.1 ≠ "EXIT"), halt := none, statusBefore := some m.status
        caller := none, loops := 0 }
      let done := evaluate fuel start action
      match done.halt with
      | none | some .returned => { done with status := m.status, halt := some .exited }
      | some _ => done

/-- Run a script line by line; `isDone` says whether some command of it was run. -/
def script : Nat → Bool → Bool → Machine → Source → Machine
  | 0, _, _, m, _ => m.stop .outOfTime
  | fuel + 1, replaces, isDone, m, source =>
    match source.line? m.aliases with
    | .error ⟨line, fault⟩ =>
      ((m.complainAt line ("Syntax error: " ++ fault.message)).finish 2).stop .failed
    | .ok line =>
      let isEmpty := match line.body with
        | .skip => true
        | _ => false
      let isLast := line.isLast
      let m := run fuel (replaces && isLast) m line.body
      let isDone := isDone || !isEmpty
      if m.halt.isSome then m
      else if isLast then if isDone then m else m.finish 0
      else script fuel replaces isDone m line.rest

/-- Run a text as a script. -/
def evaluate : Nat → Machine → String → Machine
  | 0, m, _ => m.stop .outOfTime
  | fuel + 1, m, text => script fuel false false m { text := text.toList }

/-- Run the script in a file that is found in the directories of programs or at its path. -/
def source : Nat → Machine → String → Machine
  | 0, m, _ => m.stop .outOfTime
  | fuel + 1, m, name =>
    let candidates :=
      if name.toList.contains '/' then [name]
      else (Text.split ':' m.searchPath).map (Launch.inDirectory · name)
    let found? := candidates.find? fun path =>
      match m.entryAt path with
      | .ok (.file ..) => true
      | _ => name.toList.contains '/'
    match found? with
    | none => m.fail (name ++ ": not found")
    | some path =>
      match m.bytesOf path with
      | .ok bytes =>
        behindReturn (evaluate fuel { m with caller := some path } (Octets.ofBytes bytes))
      | .error .isDirectory => m.finish 0
      | .error error => m.fail (RedirectFault.notOpened path error).message

/-- Run the shell with words: a script in a word, in a file, or in the input. -/
def interpret : Nat → Machine → List String → Machine
  | 0, m, _ => m.stop .outOfTime
  | fuel + 1, m, words =>
    let own : List (String × String) :=
      [("IFS", " \t\n"), ("OPTIND", "1"), ("PPID", toString (m.ancestors.headD 0))]
    let usual : List (String × String) := [("PS1", "# "), ("PS2", "> "), ("PS4", "+ ")]
    let m := own.foldl (fun m entry => m.bind entry.1 { value := some entry.2 }) m
    let m := usual.foldl
      (fun m entry =>
        if (m.valueOf? entry.1).isSome then m else m.bind entry.1 { value := some entry.2 }) m
    let m := m.bind "PWD" { value := some m.directory, isExported := true }
    let (m, call) := Invocation.read (words.length + 1) m false words
    if m.halt.isSome then m
    else match call.hasScript, call.words with
      | true, [] => m.fail "-c requires an argument"
      | true, [text] => leave fuel (evaluate fuel m text)
      | true, text :: name :: arguments =>
        leave fuel (evaluate fuel { m with name, arguments } text)
      | false, name :: arguments =>
        if m.options.contains 's' then
          let (m, bytes) := m.readAll 0
          leave fuel (evaluate fuel { m with arguments := name :: arguments }
            (Octets.ofBytes (bytes.toOption.getD [])))
        else match m.bytesOf name with
          | .ok bytes =>
            leave fuel (evaluate fuel { m with name, arguments } (Octets.ofBytes bytes))
          | .error error => m.fail (RedirectFault.notOpened name error).message
      | false, [] =>
        let (m, bytes) := { m with options := 's' :: m.options }.readAll 0
        leave fuel (evaluate fuel m (Octets.ofBytes (bytes.toOption.getD [])))

/-- Run a program of the machine. -/
def start : Nat → Machine → Launch → Machine
  | 0, m, _ => m.stop .outOfTime
  | fuel + 1, m, launch =>
    if Launch.shells.contains launch.utility then interpret fuel m launch.arguments
    else Utility.run (start fuel) m launch.utility launch.arguments

/-- Run a program by its name and wait for it, or in the place of the shell. -/
def external : Nat → Bool → Machine → Call → Machine
  | 0, _, m, _ => m.stop .outOfTime
  | fuel + 1, replaces, m, call =>
    let path := call.path.getD m.searchPath
    match Launch.find m.tree m.place path true call.name call.arguments with
    | .error error =>
      let (text, status) := Launch.faultOf m path call.name error
      (m.warn text).finish status
    | .ok launch =>
      if replaces then
        let done := start fuel (m.replaced launch.name) launch
        let kept := { m.after done with traps := [] }
        match done.signal? with
        | some signal => kept.stop (.killed signal)
        | none => if kept.halt.isSome then kept else kept.stop .exited
      else m.afterWaiting (start fuel (m.child launch.name) launch)

/-- Run a command of the shell. -/
def builtin : Nat → Machine → Call → Machine
  | 0, m, _ => m.stop .outOfTime
  | fuel + 1, m, call =>
    let inner := { m with caller := some call.name, hasLostOutput := false }
    let words := call.arguments
    let done := match call.name with
      | "eval" =>
        if words.isEmpty then inner.finish 0 else evaluate fuel inner (Text.join " " words)
      | "." =>
        match (if words.head? = some "--" then words.drop 1 else words) with
        | [] => inner.finish 0
        | name :: _ => source fuel inner name
      | "exec" =>
        match (if words.head? = some "--" then words.drop 1 else words) with
        | [] => inner.finish 0
        | name :: arguments =>
          let done := external fuel true inner ⟨name, arguments, none, false⟩
          if done.halt.isSome then done else done.stop .exited
      | "command" =>
        Builtin.withOptions inner "pvV" words fun letters names =>
          match letters.find? (· ≠ 'p'), names with
          | some letter, name :: _ => Builtin.describe inner (letter = 'V') name
          | _, _ => inner.finish 0
      | _ => (Builtin.run? inner call.name words).getD (inner.finish 127)
    let done :=
      if done.hasLostOutput then (done.warn (call.name ++ ": I/O error")).finish 1 else done
    { done with caller := m.caller, hasLostOutput := m.hasLostOutput }

/-- Run a function with arguments. -/
def callFunction : Nat → Machine → Command → List String → Machine
  | 0, m, _, _ => m.stop .outOfTime
  | fuel + 1, m, body, arguments =>
    if depthLimit ≤ m.depth then
      m.fail ("Maximum function recursion depth (" ++ toString depthLimit ++ ") reached")
    else
      let inner := run fuel false
        { m with
          arguments, optionIndex := 1, optionPlace := 0, saved := [], savedOptions := none
          depth := m.depth + 1, loops := 0 } body
      let done := inner.saved.foldl Machine.restore inner
      behindReturn
        { done with
          arguments := m.arguments, optionIndex := m.optionIndex, optionPlace := m.optionPlace
          saved := m.saved, savedOptions := m.savedOptions, depth := m.depth, loops := m.loops
          options := done.savedOptions.getD done.options }

/-- Run what fields call. A fault ends the shell unless a command of it fails that is none of the
special ones. -/
def invoke : Nat → Bool → Machine → Bool → Call → Machine
  | 0, _, m, _, _ => m.stop .outOfTime
  | fuel + 1, replaces, m, isSpecial, call =>
    let function? := if call.usesFunctions then Keyed.get? m.functions call.name else none
    match function? with
    | some body => callFunction fuel m body call.arguments
    | none =>
      if Builtin.isName call.name then
        let done := builtin fuel m call
        if done.halt = some .failed && !isSpecial then { done with halt := none } else done
      else external fuel (replaces && m.traps.all (·.2.isEmpty)) m call

/-- Run a command and take its output as a text. -/
def capture : Nat → Machine → Command → Machine × String
  | 0, m, _ => (m.stop .outOfTime, "")
  | fuel + 1, m, body =>
    match body with
    | .skip => (m, "")
    | _ =>
      let size := m.channels.size
      let start := { m.forked.openChannel 1 (.collected []) with tested := false }
      let inner := leave fuel (run fuel true start body)
      let text := takenText ((inner.channels[size]?).map Channel.bytes |>.getD [])
      let done := m.afterWaiting { inner with channels := inner.channels.shrink size }
      ({ done with status := m.status, takenStatus := done.status }, text)

/-- Lead streams to where redirections say, and whether that was possible. Targets are expanded
before the first stream is led. -/
def redirect : Nat → Machine → List Redirect → Machine × Bool
  | 0, m, _ => (m.stop .outOfTime, false)
  | fuel + 1, m, redirects =>
    let expand (state : Machine × List (Nat × Direction × String)) (redirect : Redirect) :
        Machine × List (Nat × Direction × String) :=
      match redirect with
      | .mk stream direction target =>
        if state.1.halt.isSome then state
        else
          let homes := if direction = .fromText then Homes.nowhere else .ofWord
          let (m, text) := Expansion.text (capture fuel) state.1 homes target
          (m, state.2 ++ [(stream, direction, text)])
    let lead (state : Machine × Bool) (entry : Nat × Direction × String) : Machine × Bool :=
      if !state.2 then state
      else match Redirection.apply state.1 entry.1 entry.2.1 entry.2.2 with
        | .ok m => (m, true)
        | .error .badNumber =>
          (state.1.fail RedirectFault.badNumber.message, false)
        | .error fault => ((state.1.warn fault.message).finish 2, false)
    let (m, entries) := redirects.foldl expand (m, [])
    if m.halt.isSome then (m, false) else entries.foldl lead (m, true)

/-- Set variables to the texts of words. With `isOwn` they are set for one command alone and given
to programs. -/
def assign : Nat → Bool → Machine → List (String × Word) → Machine × List (String × String)
  | 0, _, m, _ => (m.stop .outOfTime, [])
  | fuel + 1, isExported, m, assignments =>
    assignments.foldl (fun state entry =>
      if state.1.halt.isSome then state
      else
        let (m, text) := Expansion.text (capture fuel) state.1 .ofValue entry.2
        if m.halt.isSome then (m, state.2)
        else if m.isReadOnly entry.1 then (m.fail (entry.1 ++ ": is read only"), state.2)
        else
          let m := m.set entry.1 text
          let m := if isExported then m.bind entry.1 { m.binding entry.1 with isExported := true }
            else m
          (m, state.2 ++ [(entry.1, text)])) (m, [])

/-- Run a simple command: its words are expanded, then its streams are led, then its variables set.
-/
def simple : Nat → Bool → Machine → List (String × Word) → List Word → List Redirect → Machine
  | 0, _, m, _, _, _ => m.stop .outOfTime
  | fuel + 1, replaces, m, assignments, words, redirects =>
    let assigns := match words with
      | first :: rest => first.plainText?.any (Call.assigns · rest)
      | [] => false
    let (m, fields) := Expansion.allFields (capture fuel) assigns { m with takenStatus := 0 } words
    if m.halt.isSome then m
    else
      let isSpecial := Call.isSpecial fields
      let (led, isLed) := redirect fuel m redirects
      if led.halt.isSome then withStreamsOf m led
      else if !isLed then
        let failed := withStreamsOf m led
        if isSpecial then failed.stop .failed else failed
      else match fields with
        | [] =>
          let (led, set) := assign fuel false led assignments
          let done := traced led m.streams set []
          withStreamsOf m (if done.halt.isSome then done else done.finish done.takenStatus)
        | name :: arguments =>
          let call := Call.ofFields m (fields.length + 1) ⟨name, arguments, none, true⟩
          let isExec := call.name = "exec"
          let isOwn := !isSpecial
          let kept := assignments.map fun entry => (entry.1, Keyed.get? m.bindings entry.1)
          let exports := isOwn || (isExec && !call.arguments.isEmpty)
          let (led, set) := assign fuel exports led assignments
          if led.halt.isSome then withStreamsOf m led
          else
            let done := invoke fuel replaces (traced led m.streams set fields) isSpecial call
            let done := if isOwn then kept.foldl Machine.restore done else done
            if isExec && done.status = 0 then done else withStreamsOf m done

/-- Run the stages of a pipeline, each with the output of the one before as its input. All start at
the time that `clock` gives. -/
def stages : Nat → Machine → Nat → Option Channel → List Command → Machine
  | 0, m, _, _, _ => m.stop .outOfTime
  | fuel + 1, m, clock, input?, commands =>
    let forked := { m.forked with clock }
    let start := match input? with
      | some input => forked.openChannel 0 input
      | none => forked
    let later (done : Machine) : Machine :=
      { done with clock := max done.clock m.clock }
    match commands with
    | [] => m
    | [last] =>
      later (m.afterWaiting (leave fuel (run fuel true start last)))
    | first :: rest =>
      let place := start.channels.size
      let inner := leave fuel (run fuel true (start.openChannel 1 (.collected [])) first)
      let isEndless := inner.halt = some .outOfTime && inner.clock < inner.limit
      let bytes := (inner.channels[place]?).map Channel.bytes |>.getD []
      let inner := if isEndless then { inner with halt := none } else inner
      let inner := { inner with channels := inner.channels.shrink m.channels.size }
      let next := later (m.afterWaiting inner)
      stages fuel next clock (some (.incoming bytes isEndless)) rest

/-- Run a command as a test, whose failure does not end a strict script. -/
def test : Nat → Machine → Command → Machine
  | 0, m, _ => m.stop .outOfTime
  | fuel + 1, m, command =>
    { run fuel false { m with tested := true } command with tested := m.tested }

/-- Run a loop, whose last round ended with a status. -/
def loop : Nat → Machine → Bool → Command → Command → Nat → Machine
  | 0, m, _, _, _, _ => m.stop .outOfTime
  | fuel + 1, m, wanted, condition, body, status =>
    let tested := test fuel m condition
    match tested.halt with
    | some (.broken _) | some (.continued _) =>
      match afterRound tested with
      | (next, true) => loop fuel next wanted condition body status
      | (next, false) => next.finish status
    | some _ => tested
    | none =>
      if (tested.status = 0) != wanted then tested.finish status
      else match afterRound (run fuel false tested body) with
        | (next, true) => loop fuel next wanted condition body next.status
        | (next, false) => next

/-- Run the first arm that has a pattern for a text. -/
def select : Nat → Bool → Machine → String → List (List Word × Command) → Machine
  | 0, _, m, _, _ => m.stop .outOfTime
  | fuel + 1, replaces, m, subject, arms =>
    let fits (state : Machine × Bool) (word : Word) : Machine × Bool :=
      if state.2 || state.1.halt.isSome then state
      else
        let (m, pattern) := Expansion.pattern (capture fuel) state.1 word
        (m, m.halt.isNone && pattern.fits subject.toList)
    match arms with
    | [] => m.finish 0
    | (patterns, body) :: rest =>
      let (m, isFound) := patterns.foldl fits (m, false)
      if m.halt.isSome then m
      else if isFound then
        match body with
        | .skip => m.finish 0
        | body => run fuel replaces m body
      else select fuel replaces m subject rest

/-- Run a command. With `replaces` nothing follows it in its shell, so that a program can take the
shell's place. -/
def run : Nat → Bool → Machine → Command → Machine
  | 0, _, m, _ => m.stop .outOfTime
  | fuel + 1, replaces, m, command =>
    let m := deliver fuel m
    if m.halt.isSome || m.options.contains 'n' then m
    else deliver fuel (match command with
      | .skip => m
      | .simple line assignments words redirects =>
        (simple fuel replaces { m with line } assignments words redirects).endIfFailed
      | .redirected line body redirects =>
        let (led, isLed) := redirect fuel { m with line } redirects
        withStreamsOf m (if isLed then run fuel false led body else led)
      | .subshell line body redirects =>
        let (led, isLed) := redirect fuel { m with line }.forked redirects
        let inner := if isLed then leave fuel (run fuel true led body) else led
        (m.afterWaiting inner).endIfFailed
      | .background body =>
        let number := m.nextProcess
        let start := { m.forked with
          nextProcess := number + 1, turn := m.turn + 1, job := number, tested := false
          limit := Machine.endOfTime }
        let index := start.channels.size
        let start := { start with
          channels := start.channels.push .nowhere
          streams := (0, index) :: start.streams.filter (·.1 ≠ 0) }
        let inner := leave fuel (run fuel true start body)
        let job : Job := {
          number, status := (m.after inner).status, signal := inner.signal?, turn := inner.turn
          clock := if inner.halt = some .outOfTime then Machine.endOfTime else inner.clock }
        { m with
          tree := inner.tree, channels := inner.channels, sent := inner.sent
          nextProcess := inner.nextProcess, jobs := m.jobs ++ [job], status := 0 }
      | .pipeline commands => (stages fuel m m.clock none commands).endIfFailed
      | .negated body =>
        let done := test fuel m body
        match done.halt with
        | none | some .returned | some (.broken _) | some (.continued _) =>
          done.finish (if done.status = 0 then 1 else 0)
        | some _ => done
      | .andThen first second =>
        let done := test fuel m first
        if done.status = 0 && done.halt.isNone then run fuel replaces done second else done
      | .orElse first second =>
        let done := test fuel m first
        if done.status ≠ 0 && done.halt.isNone then run fuel replaces done second else done
      | .inOrder first second => run fuel replaces (run fuel false m first) second
      | .ifElse condition body otherwise =>
        let done := test fuel m condition
        if done.halt.isSome then done
        else if done.status = 0 then run fuel replaces done body
        else match otherwise with
          | .skip => done.finish 0
          | otherwise => run fuel replaces done otherwise
      | .loop wanted condition body =>
        let done := loop fuel { m with loops := m.loops + 1 } wanted condition body 0
        { done with loops := m.loops }
      | .each line name words body =>
        let (m, items) := Expansion.allFields (capture fuel) false { m with line } words
        if m.halt.isSome then m
        else
          let round (state : Machine × Bool) (item : String) : Machine × Bool :=
            if !state.2 then state
            else if state.1.isReadOnly name then (state.1.fail (name ++ ": is read only"), false)
            else afterRound (run fuel false (state.1.set name item) body)
          let done := (items.foldl round ({ m with loops := m.loops + 1, status := 0 }, true)).1
          { done with loops := m.loops }
      | .select line subject arms =>
        let (m, text) := Expansion.text (capture fuel) { m with line } .ofWord subject
        if m.halt.isSome then m else select fuel replaces m text arms
      | .define name body => { m with functions := Keyed.put name body m.functions }.finish 0)

end

end NfvCatalog.Shell
