import NfvCatalog.CommandLine.Grammar

/-! # Requests

The commands of the program with what they are asked to do, and the grammar in which they are
written.
-/

namespace NfvCatalog.CommandLine

/-- Check sources, descriptors and templates. -/
structure LintRequest where
  compile : Bool := false
  targets : List String := []
  files : List String := []
  maxLineLength : Option Nat := none
  linter : Option String := none
  noLinter : Bool := false
  exclude : List String := []
  jobs : Option Nat := none
deriving DecidableEq, Repr, Inhabited

/-- Translate a template into descriptors. -/
structure TranslateRequest where
  template : String
  output : String := "."
  format : Option String := none
  archive : Bool := false
  strict : Bool := false
  inputs : List String := []
  check : Bool := false
deriving DecidableEq, Repr, Inhabited

/-- Pack a descriptor with its supporting files. -/
structure PackRequest where
  descriptor : String
  name : Option String := none
  output : String := "."
  images : List String := []
  cloudInit : List String := []
  scripts : List String := []
  icons : List String := []
deriving DecidableEq, Repr, Inhabited

/-- Upload a file. -/
structure OnboardRequest where
  file : String
  url : Option String := none
  username : Option String := none
  password : Option String := none
  insecure : Bool := false
  update : Bool := false
  noWait : Bool := false
  force : Bool := false
  timeout : Option Nat := none
deriving DecidableEq, Repr, Inhabited

/-- Delete resources of a cloud account. -/
structure CleanupRequest where
  account : String
  name : Option String := none
  all : Bool := false
  exclude : List String := []
  kinds : List String := []
  dryRun : Bool := false
deriving DecidableEq, Repr, Inhabited

/-- What the program is asked to do. -/
inductive Request where
  | lint (request : LintRequest)
  | validate (files : List String)
  | toNative (request : TranslateRequest)
  | toTemplate (files : List String) (output : Option String)
  | pack (request : PackRequest)
  | inspect (package : String)
  | onboard (request : OnboardRequest)
  | cleanup (request : CleanupRequest)
  | completions (shell : String)
deriving DecidableEq, Repr, Inhabited

/-- A request, and the settings that hold for all of them. -/
structure Invocation where
  config : Option String := none
  quiet : Bool := false
  request : Request
deriving DecidableEq, Repr, Inhabited

/-! ## The grammar -/

/-- The options of every level. -/
def commonOptions : List OptionSpec :=
  [{ long := "config", use := .value .path },
    { long := "verbose", short := some 'v', use := .count },
    { long := "quiet", short := some 'q', use := .flag },
    { long := "help", short := some 'h', use := .help }]

/-- The options of the level without a command. -/
def rootOptions : List OptionSpec :=
  { long := "version", short := some 'V', use := .version } :: commonOptions

/-- A command with options of its own. -/
def commandOf (operands : Operands) (options : List OptionSpec) (build : Given → Request)
    (conflicts : List (String × String) := []) : Grammar Request :=
  .command { options := options ++ commonOptions, operands, conflicts } build

/-- The command that checks sources. -/
def lintGrammar : Grammar Request :=
  commandOf (.many .path false)
    [{ long := "compile", short := some 'c', use := .flag },
      { long := "target", short := some 't', use := .values .path },
      { long := "max-line-length", use := .value .natural },
      { long := "linter", use := .value .text },
      { long := "no-linter", use := .flag },
      { long := "exclude", use := .values .text },
      { long := "jobs", short := some 'j', use := .value .natural }]
    (fun given => .lint
      { compile := given.has "compile", targets := given.texts "target", files := given.operands
        maxLineLength := given.natural? "max-line-length", linter := given.text? "linter"
        noLinter := given.has "no-linter", exclude := given.texts "exclude"
        jobs := given.natural? "jobs" })
    [("linter", "no-linter")]

/-- The commands that translate. -/
def translateGrammar : Grammar Request :=
  .group commonOptions
    [("tosca-to-native", commandOf (.one .path)
      [{ long := "output", short := some 'o', use := .value .path },
        { long := "format", short := some 'f', use := .value .text },
        { long := "archive", use := .flag },
        { long := "strict", use := .flag },
        { long := "input", short := some 'i', use := .values .text },
        { long := "check", use := .flag }]
      fun given => .toNative
        { template := given.operand, output := (given.text? "output").getD "."
          format := given.text? "format", archive := given.has "archive"
          strict := given.has "strict", inputs := given.texts "input"
          check := given.has "check" }),
    ("native-to-tosca", commandOf (.many .path true)
      [{ long := "output", short := some 'o', use := .value .path }]
      fun given => .toTemplate given.operands (given.text? "output"))]

/-- The commands about packages. -/
def packageGrammar : Grammar Request :=
  .group commonOptions
    [("build", commandOf (.one .path)
      [{ long := "name", short := some 'n', use := .value .text },
        { long := "output", short := some 'o', use := .value .path },
        { long := "image", use := .values .path },
        { long := "cloud-init", use := .values .path },
        { long := "script", use := .values .path },
        { long := "icon", use := .values .path }]
      fun given => .pack
        { descriptor := given.operand, name := given.text? "name"
          output := (given.text? "output").getD ".", images := given.texts "image"
          cloudInit := given.texts "cloud-init", scripts := given.texts "script"
          icons := given.texts "icon" }),
    ("inspect", commandOf (.one .path) [] fun given => .inspect given.operand)]

/-- The command that uploads. The password may also come from outside. -/
def onboardGrammar (password : Option String) : Grammar Request :=
  commandOf (.one .path)
    [{ long := "url", use := .value .text },
      { long := "username", short := some 'u', use := .value .text },
      { long := "password", short := some 'p', use := .value .text },
      { long := "insecure", use := .flag },
      { long := "update", use := .flag },
      { long := "no-wait", use := .flag },
      { long := "force", use := .flag },
      { long := "timeout", use := .value .natural }]
    fun given => .onboard
      { file := given.operand, url := given.text? "url", username := given.text? "username"
        password := (given.text? "password").or password, insecure := given.has "insecure"
        update := given.has "update", noWait := given.has "no-wait", force := given.has "force"
        timeout := given.natural? "timeout" }

/-- The command that deletes resources. -/
def cleanupGrammar : Grammar Request :=
  commandOf (.one .text)
    [{ long := "name", short := some 'n', use := .value .text },
      { long := "all", use := .flag },
      { long := "exclude", short := some 'e', use := .values .text },
      { long := "kind", short := some 'k', use := .values .text },
      { long := "dry-run", use := .flag }]
    (fun given => .cleanup
      { account := given.operand, name := given.text? "name", all := given.has "all"
        exclude := given.texts "exclude", kinds := given.texts "kind"
        dryRun := given.has "dry-run" })
    [("all", "name")]

/-- The shells that complete commands. -/
def shells : List String := ["bash", "elvish", "fish", "powershell", "zsh"]

/-- The grammar of the program. -/
def grammar (password : Option String) : Grammar Request :=
  .group rootOptions
    [("lint", lintGrammar),
      ("validate", commandOf (.many .path true) [] fun given => .validate given.operands),
      ("translate", translateGrammar),
      ("package", packageGrammar),
      ("onboard", onboardGrammar password),
      ("cleanup", cleanupGrammar),
      ("completions", commandOf (.one (.choice shells)) [] fun given => .completions given.operand)]

/-- Read a command line. The settings of the innermost level count. -/
def Invocation.read (password : Option String) (words : List String) : Except Halt Invocation :=
  match (grammar password).read words with
  | .error halt => .error halt
  | .ok (request, levels) =>
    .ok { request, config := levels.findSome? (·.text? "config")
          quiet := levels.any (·.has "quiet") }

end NfvCatalog.CommandLine
