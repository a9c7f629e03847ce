import NfvCatalog.Cleanup.Plan
import NfvCatalog.CommandLine.Request
import NfvCatalog.CommandLine.Result
import NfvCatalog.Config.Settings
import NfvCatalog.Lint.Report
import NfvCatalog.Onboard.Upload
import NfvCatalog.Package.Plan
import NfvCatalog.Text.Keyed
import NfvCatalog.Tosca.TemplateRecord
import NfvCatalog.Translation.Output
import NfvCatalog.Translation.Profile
import NfvCatalog.Translation.Service

/-! # Commands

What each command does with its request and the settings.
-/

/-! ## Commands about descriptors

Validation of descriptors, and translation between templates and descriptors.
-/

namespace NfvCatalog.CommandLine

open Translation (Service)

/-! ### Validation -/

/-- The lines about a set of descriptors and its issues. -/
def validationLines (set : DescriptorSet) (issues : List Issue) : List String :=
  issues.map Issue.text ++
    [toString set.nsds.length ++ " NSD(s), " ++ toString set.vnfds.length ++ " VNFD(s): " ++
      toString issues.length ++ " issue(s)"]

/-- Validate descriptor files together. -/
def validate (tree : FileTree) (files : List String) : Printed :=
  match DescriptorSet.loadAll tree files with
  | .error error => .failed (.descriptorsNotLoaded error)
  | .ok set =>
    let issues := set.validate
    { result := .ok (verdictCode !(Issue.hasErrors issues)), output := validationLines set issues }

/-! ### From templates to descriptors -/

/-- The name and the value of an input. -/
def parseInput (written : String) : Except CommandError (String × String) :=
  let name := written.toList.takeWhile (· ≠ '=')
  match written.toList.dropWhile (· ≠ '=') with
  | [] => .error (.badInput written .notPair)
  | _ :: value =>
    if name.isEmpty then .error (.badInput written .emptyName)
    else .ok (String.ofList name, String.ofList value)

/-- The values of inputs; the last value of an input counts. -/
def parseInputs (written : List String) : Except CommandError Tosca.Overrides :=
  (written.mapM parseInput).map Keyed.ofList

/-- The notation to write in: the one asked for, or else that of the settings. -/
def outputFormat (default : Format) : Option String → Except CommandError Format
  | none => .ok default
  | some name =>
    match Format.ofName? name with
    | some format => .ok format
    | none => .error (.unknownFormat name)

/-- Translate the template in a file. -/
def translated (freshId : Nat → String) (settings : TranslateSettings) (tree : FileTree)
    (request : TranslateRequest) : Except CommandError (Format × Service) := do
  let format ← outputFormat settings.format request.format
  let inputs ← parseInputs request.inputs
  let template ←
    (Tosca.Template.load tree request.template).mapError (.templateNotLoaded request.template)
  let service ←
    (Translation.serviceOf freshId { strict := request.strict || settings.strict, inputs }
      template).mapError (.notTranslated request.template)
  return (format, service)

/-- The line about a service that is not written. -/
def serviceLine (path : String) (service : Service) : String :=
  path ++ ": NSD '" ++ service.nsd.id ++ "' with " ++ toString service.vnfds.length ++
    " VNFD(s), " ++ toString service.artifacts.length ++ " artifact(s)"

/-- Translate a template and write its descriptors, unless it is only to be checked. -/
def toNative (freshId : Nat → String) (settings : TranslateSettings) (tree : FileTree)
    (request : TranslateRequest) : FileTree × Printed :=
  match translated freshId settings tree request with
  | .error error => (tree, .failed error)
  | .ok (format, service) =>
    let issues := service.descriptors.validate
    let errors := issues.map Issue.text
    let code := verdictCode !(Issue.hasErrors issues)
    if request.check then
      (tree, { result := .ok code, output := [serviceLine request.template service], errors })
    else
      let source := (Path.parent? request.template).getD "."
      let options : Translation.OutputOptions :=
        { format, archive := request.archive || settings.archive }
      match service.write tree request.output source options with
      | (tree, .error error) => (tree, { result := .error (.failure error), errors })
      | (tree, .ok paths) => (tree, { result := .ok code, output := paths, errors })

/-! ### From descriptors to templates -/

/-- The template of descriptor files. -/
def templateOfFiles (tree : FileTree) (files : List String) :
    Except CommandError Tosca.Template := do
  let set ← (DescriptorSet.loadAll tree files).mapError .descriptorsNotLoaded
  (Translation.templateOf set).mapError .translation

/-- The lines of a text that ends with the end of a line. -/
def linesOfText (text : String) : List String := (Text.split '\n' text).dropLast

/-- Translate descriptor files into a template, and write it into a file or print it. -/
def toTemplate (tree : FileTree) (files : List String) (output : Option String) :
    FileTree × Printed :=
  match templateOfFiles tree files with
  | .error error => (tree, .failed error)
  | .ok template =>
    match output with
    | none => (tree, { result := .ok 0, output := linesOfText template.print })
    | some path =>
      match tree.writeText path template.print with
      | .error error => (tree, .failed (.notWritten path error))
      | .ok tree => (tree, { result := .ok 0, output := [path] })

end NfvCatalog.CommandLine

/-! ## Commands about packages

Packing a descriptor with its supporting files, and listing what a package holds.
-/

namespace NfvCatalog.CommandLine

/-! ### Packing -/

/-- Whether a character may stand in the name of a package. -/
def isPackageChar (c : Char) : Bool := c.isAlphanum || c = '-' || c = '_' || c = '.'

/-- The name of a package after the name and the kind of its descriptor. -/
def packageName (name : String) (kind : DescriptorKind) : String :=
  String.ofList ((name ++ "_" ++ kind.name).toList.map fun c =>
    if isPackageChar c then c else '_')

/-- The kind and the name of the only descriptor of a set. -/
def onlyDescriptor? (set : DescriptorSet) : Option (DescriptorKind × String) :=
  match set.nsds, set.vnfds with
  | [nsd], [] => some (.nsd, nsd.displayName)
  | [], [vnfd] => some (.vnfd, vnfd.displayName)
  | _, _ => none

/-- The plan of a package without supporting files. -/
def planDescriptor (tree : FileTree) (request : PackRequest) : Except CommandError PackagePlan := do
  let text ← (tree.readText request.descriptor).mapError (.notRead request.descriptor)
  let format := (Format.ofPath? request.descriptor).getD (Format.sniff text)
  let set ← (DescriptorSet.parse format text).mapError (.notParsed request.descriptor)
  match onlyDescriptor? set with
  | none => throw (.notOneDescriptor request.descriptor set.nsds.length set.vnfds.length)
  | some (kind, name) =>
    return { kind, format, descriptor := text, name := request.name.getD (packageName name kind) }

/-- The supporting files of a request, each with its directory. -/
def supportingFiles (request : PackRequest) : List (String × String) :=
  request.images.map ("images", ·) ++ request.cloudInit.map ("cloud_init", ·) ++
    request.scripts.map ("scripts", ·) ++ request.icons.map ("icons", ·)

/-- Add supporting files to a plan. -/
def addSupporting (tree : FileTree) :
    List (String × String) → PackagePlan → Except CommandError PackagePlan
  | [], plan => .ok plan
  | (directory, path) :: rest, plan => do
    addSupporting tree rest (← (plan.addFile tree directory path).mapError .failure)

/-- Pack a descriptor. -/
def pack (tree : FileTree) (request : PackRequest) : FileTree × Printed :=
  match planDescriptor tree request >>= addSupporting tree (supportingFiles request) with
  | .error error => (tree, .failed error)
  | .ok plan =>
    match plan.build tree request.output with
    | (tree, .error error) => (tree, .failed (.failure error))
    | (tree, .ok path) => (tree, { result := .ok 0, output := [path] })

/-! ### Inspection -/

/-- A number at the right end of a column. -/
def inColumn (width n : Nat) : String :=
  let digits := toString n
  String.ofList (List.replicate (width - digits.length) ' ') ++ digits

/-- The line about a file of a package. -/
def entryLine (entry : PackageEntry) : String :=
  "  " ++ inColumn 10 entry.size ++ "  " ++ entry.digest.text ++ "  " ++ entry.path

/-- The line about the descriptor of a package. -/
def descriptorLine (report : PackageReport) : String :=
  match report.descriptor, report.kind with
  | some descriptor, some kind => "Descriptor: " ++ descriptor ++ " (" ++ kind.name ++ ")"
  | _, _ => "Descriptor: none found"

/-- The lines about a package. -/
def reportLines (report : PackageReport) : List String :=
  ["Package: " ++ report.name, descriptorLine report, "Files:"] ++ report.entries.map entryLine ++
    (if report.hasManifest then [] else ["No " ++ Manifest.fileName ++ " in package"]) ++
    report.mismatched.map ("  [MISMATCH] " ++ ·) ++ report.missing.map ("  [MISSING] " ++ ·) ++
    report.unlisted.map ("  [UNLISTED] " ++ ·) ++
    [if report.isValid then "Package OK" else "Package INVALID"]

/-- List a package and compare it with its manifest. -/
def inspect (tree : FileTree) (path : String) : Printed :=
  match PackageReport.inspect tree path with
  | .error error => .failed (.failure error)
  | .ok report =>
    { result := .ok (verdictCode report.isValid), output := reportLines report }

end NfvCatalog.CommandLine

/-! ## The command that checks files -/

namespace NfvCatalog.CommandLine

/-- The words between blanks, after a word that has begun. -/
def blankWords (word : List Char) : List Char → List String
  | [] => if word.isEmpty then [] else [String.ofList word]
  | c :: rest =>
    if Text.isBlank c then
      if word.isEmpty then blankWords [] rest else String.ofList word :: blankWords [] rest
    else blankWords (word ++ [c]) rest

/-- The settings of the checks, with what a request says in their place. -/
def lintSettings (settings : LintSettings) (request : LintRequest) : LintSettings :=
  let linter := match request.linter with
    | some words => blankWords [] words.toList
    | none => settings.linter
  { settings with
    maxLineLength := request.maxLineLength.getD settings.maxLineLength
    linter := if request.noLinter then [] else linter
    exclude := settings.exclude ++ request.exclude
    jobs := request.jobs.or settings.jobs }

/-- How files are checked under settings. -/
def lintOptions (tree : FileTree) (settings : LintSettings) (compile : Bool) : Lint.LintOptions :=
  { compile, maxLineLength := settings.maxLineLength, python := settings.python
    linter := Lint.resolveLinter tree settings.linter
    milliseconds := 1000 * settings.timeoutSeconds }

/-- The line that sums up a report. -/
def summaryLine (report : Lint.LintReport) : String :=
  toString report.filesChecked ++ " file(s) checked: " ++ toString report.errorCount ++
    " error(s), " ++ toString report.warningCount ++ " warning(s)"

/-- Whether a failure to find the files is a matter of usage. -/
def isUsageFailure (failure : Failure) : Bool :=
  failure.category = .notFound || failure.category = .configuration

/-- Check files. -/
def lint (freshId : Nat → String) (settings : LintSettings) (quiet : Bool) (tree : FileTree)
    (request : LintRequest) : FileTree × Printed :=
  if request.targets.isEmpty && request.files.isEmpty then
    (tree, .refused "nothing to lint (give -t DIR or files)")
  else
    let settings := lintSettings settings request
    match Lint.discover tree request.targets request.files settings.exclude with
    | .error failure =>
      (tree, if isUsageFailure failure then .refused failure.message
        else .failed (.failure failure))
    | .ok files =>
      let (tree, report) :=
        Lint.run freshId (lintOptions tree settings request.compile) tree files
      (tree,
        { result := .ok report.exitCode, output := report.diagnostics.map (·.text)
          errors := if quiet then [] else [summaryLine report] })

end NfvCatalog.CommandLine

/-! ## The command that deletes cloud resources

Nothing is deleted unless a name pattern or the flag for all resources is given, and nothing on a
dry run. The command works on any account that can be opened and used.
-/

namespace NfvCatalog.CommandLine

/-- What became of a cleanup. -/
structure CleanupOutcome (σ : Type) where
  printed : Printed
  /-- The state behind the account, if it was opened. -/
  state : Option σ

/-- The kinds with the given names. -/
def kindsNamed (names : List String) : Except CommandError (List ResourceKind) :=
  names.mapM fun name =>
    match ResourceKind.ofName? name with
    | some kind => .ok kind
    | none => .error (.unknownKind name)

/-- The account that a cleanup is for, and its filter. -/
def cleanupTarget (config : Config) (request : CleanupRequest) (names : NameSelection) :
    Except CommandError (CloudAccount × ResourceFilter) := do
  let account ← match config.cloud? request.account with
    | some account => .ok account
    | none => .error (.failure (.unknownAccount request.account))
  let kinds ← kindsNamed request.kinds
  let filter ← (ResourceFilter.make names request.exclude kinds).mapError .failure
  return (account, filter)

/-- The lines about kinds that could not be listed. -/
def listFailureLines (plan : CleanupPlan) : List String :=
  plan.listFailures.map fun failed =>
    "warning: could not list " ++ failed.1.name ++ "s: " ++ failed.2.message

/-- The lines about a plan that is not carried out. -/
def dryRunLines (account : String) (plan : CleanupPlan) : List String :=
  ("Would delete " ++ toString plan.resources.length ++ " resource(s) from '" ++ account ++ "':") ::
    plan.resources.map ("  " ++ ·.text)

/-- The lines about a plan that was carried out. -/
def deletionLines (report : CleanupReport) : List String :=
  report.deleted.map ("  [DELETED] " ++ ·.text) ++
    report.failed.map (fun failed => "  [FAILED] " ++ failed.1.text ++ ": " ++ failed.2.message) ++
    ["Deleted " ++ toString report.deleted.length ++ ", failed " ++ toString report.failed.length]

/-- Plan the cleanup of an open account, and carry it out unless it is a dry run. -/
def cleanUp {σ : Type} (access : AccountAccess σ) (request : CleanupRequest)
    (filter : ResourceFilter) (state : σ) : Printed × σ :=
  let (plan, state) := CleanupPlan.build access filter state
  let errors := listFailureLines plan
  let listed := verdictCode plan.isComplete
  if plan.isEmpty then
    ({ result := .ok listed, output := ["Nothing to clean up on '" ++ request.account ++ "'"]
       errors }, state)
  else if request.dryRun then
    ({ result := .ok listed, output := dryRunLines request.account plan, errors }, state)
  else
    let (report, _, state) := CleanupPlan.execute access plan state
    ({ result := .ok (verdictCode (report.isSuccess && plan.isComplete))
       output := deletionLines report, errors }, state)

/-- Clean up an account. Without a choice of names the account is not even opened. -/
def cleanup {σ : Type} (connect : CloudAccount → Except Failure σ) (access : AccountAccess σ)
    (config : Config) (request : CleanupRequest) : CleanupOutcome σ :=
  match NameSelection.ofFlags? request.name request.all with
  | none =>
    { printed := .refused
        "cleanup needs --name REGEX, or --all to delete every resource on the account"
      state := none }
  | some names =>
    match cleanupTarget config request names with
    | .error error => { printed := .failed error, state := none }
    | .ok (account, filter) =>
      match connect account with
      | .error failure =>
        { printed := .failed (.accountNotOpened request.account failure), state := none }
      | .ok state =>
        let (printed, state) := cleanUp access request filter state
        { printed, state := some state }

end NfvCatalog.CommandLine

/-! ## The command that uploads -/

namespace NfvCatalog.CommandLine

/-- The settings of uploads, with what a request says in their place. -/
def onboardSettings (settings : OnboardSettings) (request : OnboardRequest) : OnboardSettings :=
  { settings with
    username := request.username.or settings.username
    password := request.password.or settings.password
    acceptInvalidCerts := settings.acceptInvalidCerts || request.insecure
    timeoutSeconds := request.timeout.getD settings.timeoutSeconds }

/-- The address of the server: the one asked for, or else that of the settings. -/
def serverAddress (settings : OnboardSettings) : Option String → Except OnboardError Url
  | some text => (Url.parse text).mapError (.badAddress text)
  | none => settings.address.mapError .badSettings

/-- The lines about an upload. -/
def uploadLines (path : String) : UploadOutcome → List String
  | .submitted transaction => ["Upload accepted, transaction " ++ transaction]
  | .completed transaction events =>
    events.map ("  " ++ ·) ++ ["Onboarded " ++ path ++ " (transaction " ++ transaction ++ ")"]

/-- Upload a file to the server at an address. A transaction that is pending when the server has no
more replies has not failed. -/
def onboard (server : OnboardSettings → Url → Bool → UploadServer) (settings : OnboardSettings)
    (tree : FileTree) (request : OnboardRequest) : Printed :=
  let settings := onboardSettings settings request
  match serverAddress settings request.url with
  | .error error => .failed (.onboarding error)
  | .ok url =>
    let options : UploadOptions :=
      { timeout := 1000 * settings.timeoutSeconds, wait := !request.noWait
        force := request.force, update := request.update }
    let server := server settings url.asDirectory request.update
    match (Upload.run options server tree request.file).result with
    | some (.ok outcome) => { result := .ok 0, output := uploadLines request.file outcome }
    | some (.error error) => .failed (.onboarding error)
    | none => { result := .ok 0 }

end NfvCatalog.CommandLine
