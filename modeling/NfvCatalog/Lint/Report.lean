import NfvCatalog.Descriptor.Load
import NfvCatalog.Lint.Diagnostic
import NfvCatalog.Pattern.Glob
import NfvCatalog.Tool.Command
import NfvCatalog.Tosca.TemplateRecord
import NfvCatalog.Translation.Service

/-! # Reports on files

The files to check are found, and each is checked by what its kind asks for.
-/

/-! ## Finding the files to check

Target directories are searched for sources, descriptors and templates; files may also be named one
by one. What is found is sorted by path, each path once.
-/

namespace NfvCatalog.Lint

/-- What a file to check holds. -/
inductive FileKind where
  | python
  | descriptor
  | tosca
deriving DecidableEq, Repr, Inhabited

/-- The name of a kind. -/
def FileKind.name : FileKind → String
  | .python => "python"
  | .descriptor => "descriptor"
  | .tosca => "tosca"

/-- A file to check. -/
structure SourceFile where
  path : String
  kind : FileKind
deriving DecidableEq, Repr, Inhabited

/-- The kind of a document, from its text. -/
def documentKind? (text : String) : Option FileKind :=
  match (Yaml.read text).bind Node.resolve with
  | .error _ => none
  | .ok value =>
    if isCatalogDocument value then some .descriptor
    else if Tosca.isTemplateDocument value then some .tosca
    else none

/-- The kind of a file, from its extension and, for documents, its text. -/
def classify (tree : FileTree) (path : String) : Option FileKind :=
  match (Path.extension? path).map Text.asciiLower with
  | some "py" => some .python
  | some "yaml" | some "yml" | some "json" =>
    match tree.readText path with
    | .ok text => documentKind? text
    | .error _ => none
  | _ => none

/-- Whether a place is left out: by its path below the target, or by its name. -/
def isExcluded (excludes : List Glob) (relative : String) (name : Option String) : Bool :=
  excludes.any fun pattern => pattern.matchesName relative || name.any pattern.matchesName

/-- Whether a name is hidden. -/
def isHidden (name : String) : Bool := Text.startsWith name "."

/-- The files below a directory that are not left out, as paths. Hidden directories are not
entered. `relative` is the path from the target; `fuel` bounds the depth. -/
def filesBelow (tree : FileTree) (excludes : List Glob) :
    Nat → Place → String → String → List String
  | 0, _, _, _ => []
  | fuel + 1, place, path, relative =>
    (tree.names place).flatMap fun name =>
      let inner := Path.join path name
      let below := Path.join relative name
      if isExcluded excludes below (some name) then []
      else match tree.entryAt? (place ++ [name]) with
        | some .directory =>
          if isHidden name then [] else filesBelow tree excludes fuel (place ++ [name]) inner below
        | some (.file ..) => [inner]
        | none => []

/-- The files of a target directory. -/
def filesOf (tree : FileTree) (excludes : List Glob) (target : String) :
    Except Failure (List String) :=
  match tree.isDirectory target, tree.locate target with
  | true, .ok place =>
    if isExcluded excludes "" (Path.fileName? target) then .ok []
    else .ok (filesBelow tree excludes (tree.entries.length + 1) place target "")
  | _, _ => .error (.missingTarget target)

/-- Read the patterns of what is left out. -/
def readExcludes (patterns : List String) : Except Failure (List Glob) :=
  patterns.mapM fun pattern => (Glob.parse pattern).mapError (Failure.badExcludePattern pattern)

/-- A named file, if it is one to check. -/
def namedFile (tree : FileTree) (path : String) : Except Failure (Option SourceFile) :=
  if tree.isFile path then .ok ((classify tree path).map (SourceFile.mk path))
  else .error (.missingFile path)

/-- Leave out a file with the path of the one before it. -/
def dropRepeated : List SourceFile → List SourceFile
  | first :: second :: rest =>
    if Path.compare first.path second.path = .eq then dropRepeated (first :: rest)
    else first :: dropRepeated (second :: rest)
  | files => files
termination_by files => files.length

/-- The files to check in targets and among named files. -/
def discover (tree : FileTree) (targets named excludes : List String) :
    Except Failure (List SourceFile) := do
  let patterns ← readExcludes excludes
  let paths ← targets.mapM (filesOf tree patterns)
  let found := paths.flatten.filterMap fun path => (classify tree path).map (SourceFile.mk path)
  let others ← named.mapM (namedFile tree)
  let sorted := (found ++ others.filterMap id).mergeSort fun a b => Path.compare a.path b.path ≠ .gt
  return dropRepeated sorted

/-! ## Checking files

Sources get the checks of their text, a compilation if it is asked for, and an external linter if
there is one. Descriptors are validated; templates are translated and the result is validated. The
report does not depend on the order of the files.
-/

/-- How files are checked. The linter is a command to which the path is added. -/
structure LintOptions where
  compile : Bool := false
  maxLineLength : Nat := 120
  linter : Option (List String) := none
  python : String := "python3"
  milliseconds : Nat := 60000
deriving DecidableEq, Repr, Inhabited

/-- The linter's command with its program found; none when it is off or not there. -/
def resolveLinter (tree : FileTree) : List String → Option (List String)
  | [] => none
  | program :: arguments => (Command.locate? tree program).map (· :: arguments)

/-- The findings of a report, and how many files were checked. -/
structure LintReport where
  filesChecked : Nat
  diagnostics : List Diagnostic
deriving DecidableEq, Repr, Inhabited

namespace LintReport

/-- How many findings have a severity. -/
def count (report : LintReport) (severity : Severity) : Nat :=
  (report.diagnostics.filter (·.severity = severity)).length

/-- How many findings are errors. -/
def errorCount (report : LintReport) : Nat := report.count .error

/-- How many findings are warnings. -/
def warningCount (report : LintReport) : Nat := report.count .warning

/-- One when there is an error, else zero. -/
def exitCode (report : LintReport) : Nat := if 0 < report.errorCount then 1 else 0

/-- The report of the findings of each file. -/
def ofFindings (findings : List (List Diagnostic)) : LintReport :=
  { filesChecked := findings.length, diagnostics := findings.flatten.mergeSort Diagnostic.le }

end LintReport

/-- The finding about a tool that failed. -/
def toolFailure (path message : String) : Diagnostic := .ofFile path "E902" .error message

/-- Compile a file. -/
def compileFile (tree : FileTree) (options : LintOptions) (path : String) :
    FileTree × List Diagnostic :=
  let arguments := ["-m", "py_compile", path]
  match Command.run tree options.python arguments [] options.milliseconds with
  | (tree, .ok output) =>
    (tree, if output.success then [] else [compileFailure path output.errors])
  | (tree, .error (.toolMissing name)) =>
    (tree, [toolFailure path (name ++ " not found, cannot compile")])
  | (tree, .error failure) => (tree, [toolFailure path failure.message])

/-- Run the linter on a file. A linter that fails without a finding is a finding. -/
def runLinter (tree : FileTree) (milliseconds : Nat) (path : String) :
    List String → FileTree × List Diagnostic
  | [] => (tree, [])
  | program :: arguments =>
    match Command.run tree program (arguments ++ [path]) [] milliseconds with
    | (tree, .ok output) =>
      let found := parseLinterOutput path output.output ++ parseLinterOutput path output.errors
      if found.isEmpty ∧ !output.success then
        (tree, [toolFailure path (program ++ " exited with " ++ toString output.code)])
      else (tree, found)
    | (tree, .error failure) => (tree, [toolFailure path failure.message])

/-- Check a source file. -/
def lintPython (tree : FileTree) (options : LintOptions) (path : String) :
    FileTree × List Diagnostic :=
  match tree.read path with
  | .error error => (tree, [toolFailure path error.message])
  | .ok content =>
    let text := match content with
      | .bytes bytes => Utf8.lossy bytes
      | .archive _ => ""
    let found := checkText path text options.maxLineLength
    let (tree, compiled) := if options.compile then compileFile tree options path else (tree, [])
    let (tree, linted) := runLinter tree options.milliseconds path (options.linter.getD [])
    (tree, found ++ compiled ++ linted)

/-- Check a descriptor file. -/
def lintDescriptor (tree : FileTree) (path : String) : List Diagnostic :=
  match DescriptorSet.load tree path with
  | .error failure => [.ofFile path "D001" .error failure.message]
  | .ok set =>
    set.validate.map fun issue =>
      .ofFile path "D100" issue.severity (issue.path ++ ": " ++ issue.message)

/-- Check a template by translating it. -/
def lintTosca (freshId : Nat → String) (tree : FileTree) (path : String) : List Diagnostic :=
  let translated := do
    let template ← (Tosca.Template.load tree path).mapError Translation.TranslationError.template
    Translation.serviceOf freshId { } template
  match translated with
  | .error error => [.ofFile path "T001" .error error.message]
  | .ok service =>
    service.descriptors.validate.map fun issue =>
      .ofFile path "T100" issue.severity ("translated " ++ issue.path ++ ": " ++ issue.message)

/-- Check a file. -/
def lintFile (freshId : Nat → String) (options : LintOptions) (tree : FileTree)
    (file : SourceFile) : FileTree × List Diagnostic :=
  match file.kind with
  | .python => lintPython tree options file.path
  | .descriptor => (tree, lintDescriptor tree file.path)
  | .tosca => (tree, lintTosca freshId tree file.path)

/-- The findings of each file. -/
def findingsOf (freshId : Nat → String) (options : LintOptions) :
    FileTree → List SourceFile → FileTree × List (List Diagnostic)
  | tree, [] => (tree, [])
  | tree, file :: rest =>
    let (tree, found) := lintFile freshId options tree file
    let (tree, others) := findingsOf freshId options tree rest
    (tree, found :: others)

/-- Check files and report. -/
def run (freshId : Nat → String) (options : LintOptions) (tree : FileTree)
    (files : List SourceFile) : FileTree × LintReport :=
  let (tree, findings) := findingsOf freshId options tree files
  (tree, .ofFindings findings)

end NfvCatalog.Lint
