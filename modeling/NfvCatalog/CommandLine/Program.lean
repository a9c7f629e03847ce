import NfvCatalog.Cleanup.Account
import NfvCatalog.CommandLine.Commands
import NfvCatalog.Config.Record
import NfvCatalog.Onboard.Upload

/-! # The program

A run of the program reads its command line, loads the settings and carries out one request. All
that it can reach is given: the files, the environment variables, fresh ids and the upload server.
-/

namespace NfvCatalog.CommandLine

/-- What a run of the program can reach. -/
structure Environment where
  tree : FileTree
  bindings : List (String × String) := []
  freshId : Nat → String
  /-- The server at an address, as the settings reach it; the flag asks for an update. -/
  server : OnboardSettings → Url → Bool → UploadServer := fun _ => UploadServer.unreachable

/-- What a run of the program leaves. -/
structure RunResult where
  exitCode : Nat
  output : String
  errors : String
  tree : FileTree
  /-- What is wrong with the command line, if that is why nothing was done. -/
  misuse : Option UsageFault := none
deriving Repr

namespace Environment

/-- The value of an environment variable. -/
def valueOf? (environment : Environment) (name : String) : Option String :=
  (environment.bindings.find? (·.1 = name)).map Prod.snd

/-- The file of settings below the directory for such files. -/
def settingsPath : String := "nfvkit/config.toml"

/-- The directory for files of settings. -/
def settingsDirectory? (environment : Environment) : Option String :=
  match (environment.valueOf? "XDG_CONFIG_HOME").filter Path.isAbsolute with
  | some directory => some directory
  | none => (environment.valueOf? "HOME").map (Path.join · ".config")

/-- The settings in a file. -/
def settingsOfFile (environment : Environment) (path : String) : Except CommandError Config :=
  match environment.tree.readText path with
  | .error error => .error (.failure (.unreadConfig path error))
  | .ok text => (Config.parse text).mapError fun error => .failure (.badConfig error)

/-- The settings: in the file that is named on the command line, else in the one that the
environment names, else in the usual one if it is there. -/
def settings (environment : Environment) (named : Option String) : Except CommandError Config :=
  match named.or ((environment.valueOf? "NFVKIT_CONFIG").filter (· ≠ "")) with
  | some path => environment.settingsOfFile path
  | none =>
    match environment.settingsDirectory?.map (Path.join · settingsPath) with
    | some path => if environment.tree.has path then environment.settingsOfFile path else .ok { }
    | none => .ok { }

end Environment

/-- The name of the program and its version. -/
def versionText : String := "nfvkit 0.1.0\n"

/-- The names of the commands. -/
def commandNames : List String := (grammar none).commandNames

/-- How the program is used. -/
def usageText : String :=
  "Usage: nfvkit [OPTIONS] <COMMAND>\n\nCommands: " ++ Text.join ", " commandNames ++ "\n"

/-- Carry out a request under settings. -/
def carryOut (environment : Environment) (config : Config) (quiet : Bool) :
    Request → FileTree × Printed
  | .lint request => lint environment.freshId config.lint quiet environment.tree request
  | .validate files => (environment.tree, validate environment.tree files)
  | .toNative request =>
    toNative environment.freshId config.translate environment.tree request
  | .toTemplate files output => toTemplate environment.tree files output
  | .pack request => pack environment.tree request
  | .inspect path => (environment.tree, inspect environment.tree path)
  | .onboard request =>
    (environment.tree, onboard environment.server config.onboard environment.tree request)
  | .cleanup request =>
    let connect (account : CloudAccount) : Except Failure (OpenAccount × FileTree) :=
      (OpenAccount.connect environment.tree account).map (·, environment.tree)
    let outcome := cleanup connect OpenAccount.access config request
    ((outcome.state.map Prod.snd).getD environment.tree, outcome.printed)
  | .completions _ => (environment.tree, { result := .ok 0, output := commandNames })

/-- Carry out what a command line asks for. Completions need no settings. -/
def invoke (environment : Environment) (invocation : Invocation) : FileTree × Printed :=
  match invocation.request with
  | .completions _ => carryOut environment { } invocation.quiet invocation.request
  | request =>
    match environment.settings invocation.config with
    | .error error => (environment.tree, .failed error)
    | .ok config => carryOut environment config invocation.quiet request

/-- Run the program. -/
def run (environment : Environment) (words : List String) : RunResult :=
  match Invocation.read (environment.valueOf? "NFVKIT_PASSWORD") words with
  | .error .help => { exitCode := 0, output := usageText, errors := "", tree := environment.tree }
  | .error .version =>
    { exitCode := 0, output := versionText, errors := "", tree := environment.tree }
  | .error (.misuse fault) =>
    { exitCode := usageCode, output := ""
      errors := "error: " ++ fault.message ++ "\n\n" ++ usageText, tree := environment.tree
      misuse := some fault }
  | .ok invocation =>
    let (tree, printed) := invoke environment invocation
    { exitCode := printed.exitCode, output := printed.outputText, errors := printed.errorText
      tree }

end NfvCatalog.CommandLine
