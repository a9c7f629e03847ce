import NfvCatalog.Failure
import NfvCatalog.Shell.Run

/-! # External commands

Running a program with arguments and a time limit. The program may change files; what it prints and
how it ends is its outcome.
-/

namespace NfvCatalog

/-- How a command ended and what it printed. A command that a signal ended has no status. -/
structure CommandOutput where
  status : Option Nat
  output : String
  errors : String
deriving DecidableEq, Repr, Inhabited

namespace CommandOutput

/-- Whether a command ended well. -/
def success (output : CommandOutput) : Bool := output.status = some 0

/-- The status of a command as a number; minus one when a signal ended it. -/
def code (output : CommandOutput) : Int :=
  match output.status with
  | some status => status
  | none => -1

end CommandOutput

namespace Command

/-- The bound on the nesting and the rounds of a script. -/
def fuel : Nat := 60000

/-- A variable of an environment, which is one text: its name ends at the first sign between name
and value. -/
def binding (entry : String × String) : String × String :=
  let text := (entry.1 ++ "=" ++ entry.2).toList
  let name := text.takeWhile (· ≠ '=')
  (String.ofList name, String.ofList (text.drop (name.length + 1)))

/-- Whether a text holds the character that ends texts of other programs. -/
def hasNul (text : String) : Bool := text.toList.contains '\x00'

/-- The machine that a program starts in: its output and its errors are collected. -/
def machine (tree : FileTree) (program : String) (environment : List (String × String))
    (milliseconds : Nat) : Shell.Machine :=
  let given := environment.map binding
  let usual := [("PATH", Shell.Launch.standardPath), ("HOME", "/root")]
  let bindings := (Keyed.ofList (usual ++ given)).map fun (name, value) =>
    (Octets.ofText name, { value := some (Octets.ofText value), isExported := true })
  { tree, bindings, name := Octets.ofText program, limit := milliseconds
    channels := #[.nowhere, .collected [], .collected []], streams := [(0, 0), (1, 1), (2, 2)] }

/-- The start of a program under an environment. Directories that the environment names are searched
the way the shell does it, which also runs a text without an interpreter. -/
def launch (m : Shell.Machine) (program : String) (arguments : List String)
    (environment : List (String × String)) : Except SpawnError Shell.Launch :=
  let texts := program :: arguments ++ environment.flatMap fun entry => [entry.1, entry.2]
  if texts.any hasNul then .error .hasNul
  else
    let path := (Keyed.get? environment "PATH").map Octets.ofText
    let runsText := path.isSome && !program.toList.contains '/'
    Shell.Launch.find m.tree m.place (path.getD Shell.Launch.standardPath) runsText
      (Octets.ofText program) (arguments.map Octets.ofText)

/-- What was collected in a channel, as a text. -/
def collected (m : Shell.Machine) (channel : Nat) : String :=
  Utf8.lossy (((m.channels[channel]?).map Shell.Channel.bytes).getD [])

/-- Run a program in a tree, with variables added to its environment. -/
def run (tree : FileTree) (program : String) (arguments : List String)
    (environment : List (String × String)) (milliseconds : Nat) :
    FileTree × Except Failure CommandOutput :=
  let environment := Keyed.ofList environment
  let m := machine tree program environment milliseconds
  match launch m program arguments environment with
  | .error (.file .notFound) => (tree, .error (.toolMissing program))
  | .error error => (tree, .error (.notSpawned program error))
  | .ok launch =>
    let m := Shell.start fuel { m with name := launch.name } launch
    if m.halt = some .outOfTime ∨ milliseconds = 0 then
      (m.tree, .error (.outOfTime program milliseconds))
    else
      let status := if m.signal?.isSome then none else some (m.status % 256)
      (m.tree, .ok ⟨status, collected m 1, collected m 2⟩)

/-- The path of a program that can be run: a path as it is given, or a name found in the
directories of programs. -/
def locate? (tree : FileTree) (program : String) : Option String :=
  let m := machine tree program [] 0
  let name := Octets.ofText program
  if program.toList.contains '/' then
    match m.entryAt name with
    | .ok (.file _ true) => some program
    | _ => none
  else if Shell.Launch.utilities.contains program then some ("/usr/bin/" ++ program)
  else none

end Command

end NfvCatalog
