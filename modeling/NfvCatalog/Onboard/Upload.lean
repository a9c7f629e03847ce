import NfvCatalog.Descriptor.Validation
import NfvCatalog.Onboard.Error
import NfvCatalog.Onboard.State
import NfvCatalog.Package.Report
import NfvCatalog.Tool.Progress

/-! # Uploads

A file is checked before it is sent, and followed until its transaction is over.
-/

/-! ## Checks before an upload

A package must agree with its manifest and hold descriptors without errors; a descriptor file must
hold descriptors without errors. Other files are not checked.
-/

namespace NfvCatalog.Precheck

/-- Whether a path names a package. -/
def isPackage (path : String) : Bool := Text.endsWith path ".tar.gz" || Text.endsWith path ".tgz"

/-- The issues of descriptors, if one of them is an error. -/
def ofDescriptors (set : DescriptorSet) : List UploadProblem :=
  let issues := set.validate
  if Issue.hasErrors issues then issues.map .descriptor else []

/-- The ways in which a package disagrees with its manifest. -/
def ofReport (report : PackageReport) : List UploadProblem :=
  (if report.hasManifest then [] else [.noManifest]) ++ report.mismatched.map .mismatched ++
    report.missing.map .missing

/-- What is wrong with a package. -/
def ofPackage (tree : FileTree) (path : String) : List UploadProblem :=
  match PackageReport.inspect tree path with
  | .error failure => [.unusable failure]
  | .ok report =>
    let problems := ofReport report
    match DescriptorSet.loadPackage tree path with
    | .error failure => problems ++ [.unusable failure]
    | .ok (_, set) => if problems.isEmpty then ofDescriptors set else problems

/-- What is wrong with a descriptor file. -/
def ofFile (tree : FileTree) (path : String) : List UploadProblem :=
  match DescriptorSet.load tree path with
  | .error failure => [.unusable failure]
  | .ok set => ofDescriptors set

/-- What is wrong with the file at a path. -/
def problems (tree : FileTree) (path : String) : List UploadProblem :=
  if isPackage path then ofPackage tree path
  else if (Format.ofPath? path).isSome then ofFile tree path
  else []

end NfvCatalog.Precheck

/-! ## Sending and following

A file is checked, sent to the upload server, and followed until its transaction has finished or
the wait is over. The server and the clock are given as data: the reply to the upload, and the
replies to the questions about its state, each with the time at which it arrives.
-/

namespace NfvCatalog

/-- A reply to the question about the state of a transaction. -/
structure StateReply where
  reply : Except OnboardError UploadState
  /-- The milliseconds since the first question. -/
  elapsed : Nat
deriving Repr

/-- How an upload server answers. -/
structure UploadServer where
  upload : Except OnboardError String
  /-- The replies to the questions, in order. -/
  states : List StateReply := []
deriving Repr

/-- How to upload. -/
structure UploadOptions where
  /-- The milliseconds to wait for the transaction to finish. -/
  timeout : Nat := 300000
  /-- Whether to wait at all. -/
  wait : Bool := true
  /-- Whether to upload a file in spite of its problems. -/
  force : Bool := false
  /-- Whether the file replaces an earlier one. -/
  update : Bool := false
deriving DecidableEq, Repr, Inhabited

/-- What is asked of an upload server. -/
inductive ServerCall where
  | upload (path : String) (update : Bool)
  | state (transaction : String)
deriving DecidableEq, Repr, Inhabited

/-- A transaction that has been accepted, or has been followed to its success. -/
inductive UploadOutcome where
  | submitted (transaction : String)
  | completed (transaction : String) (events : List String)
deriving DecidableEq, Repr, Inhabited

/-- What became of waiting for a transaction. -/
structure PollReport where
  /-- The number of questions. -/
  asked : Nat
  /-- The texts of the events, as they became known. -/
  shown : List String
  /-- How it ended; nothing if the transaction was pending at the last reply. -/
  result : Option (Except OnboardError (List String))
deriving Repr

/-- What became of an upload. -/
structure UploadReport where
  calls : List ServerCall := []
  events : List ProgressEvent := []
  /-- How it ended; nothing if the transaction was pending at the last reply. -/
  result : Option (Except OnboardError UploadOutcome)
deriving Repr

namespace PollReport

/-- One more question, asked before the others, after which some texts were shown. -/
def after (texts : List String) (rest : PollReport) : PollReport :=
  { rest with asked := rest.asked + 1, shown := texts ++ rest.shown }

/-- Waiting that ends with a reply. -/
def finished (texts : List String) (result : Except OnboardError (List String)) : PollReport :=
  { asked := 1, shown := texts, result := some result }

end PollReport

namespace Upload

/-- Ask for the state of a transaction until it has finished, or the time is over when a reply
arrives. Of every reply the events behind the first so many are new. -/
def pollFrom (timeout : Nat) (transaction : String) (seen : Nat) : List StateReply → PollReport
  | [] => { asked := 0, shown := [], result := none }
  | reply :: rest =>
    match reply.reply with
    | .error error => .finished [] (.error error)
    | .ok state =>
      let texts := state.eventTexts.drop seen
      match state.status with
      | .success => .finished texts (.ok state.eventTexts)
      | .failure => .finished texts (.error (.failed transaction state.eventTexts))
      | .pending =>
        if timeout ≤ reply.elapsed then
          .finished texts (.error (.timeout transaction reply.elapsed))
        else (pollFrom timeout transaction state.events.length rest).after texts

/-- Wait for a transaction. -/
def poll (timeout : Nat) (transaction : String) (replies : List StateReply) : PollReport :=
  pollFrom timeout transaction 0 replies

/-- The last progress event of waiting for the transaction of a file. -/
def lastEvents (path : String) : Option (Except OnboardError (List String)) → List ProgressEvent
  | some (.ok _) => [.finish ("Onboarded " ++ path)]
  | some (.error error) => [.failure error.message]
  | none => []

/-- Follow an accepted upload. -/
def follow (options : UploadOptions) (path transaction : String) (replies : List StateReply) :
    UploadReport :=
  if options.wait then
    let report := poll options.timeout transaction replies
    { calls := List.replicate report.asked (.state transaction)
      events := report.shown.map .message ++ lastEvents path report.result
      result := report.result.map fun result => result.map (.completed transaction) }
  else
    { events := [.finish ("Submitted as " ++ transaction)]
      result := some (.ok (.submitted transaction)) }

/-- Send a file to a server and follow it. -/
def send (options : UploadOptions) (server : UploadServer) (path : String) : UploadReport :=
  let call := ServerCall.upload path options.update
  let event := ProgressEvent.message ("Uploading " ++ path)
  match server.upload with
  | .error error => { calls := [call], events := [event], result := some (.error error) }
  | .ok transaction =>
    let report := follow options path transaction server.states
    { report with calls := call :: report.calls, events := event :: report.events }

/-- Upload a file. It must be there, and have no problems unless the upload is forced. -/
def run (options : UploadOptions) (server : UploadServer) (tree : FileTree) (path : String) :
    UploadReport :=
  if !tree.isFile path then { result := some (.error (.missingFile path)) }
  else
    let problems := Precheck.problems tree path
    if problems.isEmpty || options.force then send options server path
    else { result := some (.error (.unfit path problems)) }

end Upload

end NfvCatalog

/-! ## Servers out of reach

An upload server that nobody answers for refuses every upload. An address that has no paths below it
is refused before any request is made, and so is one of a scheme other than the two that servers
have.
-/

namespace NfvCatalog.UploadServer

/-- The path of the endpoint that takes files. -/
def uploadPath (update : Bool) : String := if update then "api/update" else "api/upload"

/-- The reason why a request to an address has no reply. The address is that of the request, which
holds the credentials apart. -/
def reason (url : Url) : String :=
  if url.scheme = "http" ∨ url.scheme = "https" then
    "error sending request for url (" ++ url.text ++
      "): error trying to connect: tcp connect error: Connection refused (os error 111)"
  else "builder error for url (" ++ url.text ++ "): URL scheme is not allowed"

/-- The server at an address where nobody answers. -/
def unreachable (base : Url) (update : Bool) : UploadServer :=
  let path := uploadPath update
  match base.path with
  | .plain _ => { upload := .error (.badEndpoint path) }
  | .segments _ =>
    let url := base.below path
    { upload := .error (.unreachable "POST" url.text (reason { url with credentials := "" })) }

end NfvCatalog.UploadServer
