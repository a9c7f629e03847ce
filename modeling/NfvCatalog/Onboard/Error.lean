import NfvCatalog.Descriptor.Issue
import NfvCatalog.Failure

/-! # Failures of uploads

What keeps a file from being uploaded, and what can go wrong once the upload has begun.
-/

namespace NfvCatalog

/-- What is wrong with a file that is to be uploaded. -/
inductive UploadProblem where
  | unusable (failure : Failure)
  | noManifest
  | mismatched (member : String)
  | missing (member : String)
  | descriptor (issue : Issue)
deriving DecidableEq, Repr

/-- The wording of an upload problem. -/
def UploadProblem.message : UploadProblem → String
  | .unusable failure => failure.message
  | .noManifest => "package has no " ++ Manifest.fileName
  | .mismatched member => "checksum mismatch: " ++ member
  | .missing member => "listed but missing: " ++ member
  | .descriptor issue => issue.text

/-- Why an upload fails. -/
inductive OnboardError where
  | badAddress (text : String) (error : UrlError)
  | badSettings (error : ConfigError)
  | badEndpoint (path : String)
  | unreachable (action address reason : String)
  | refused (address : String) (code : Nat) (body : String)
  | badReply (reason : String)
  | missingFile (path : String)
  | unfit (path : String) (problems : List UploadProblem)
  | failed (transaction : String) (events : List String)
  /-- The wait was so many milliseconds. -/
  | timeout (transaction : String) (waited : Nat)
deriving DecidableEq, Repr

/-- The wording of an upload failure. -/
def OnboardError.message : OnboardError → String
  | .badAddress text error => "Invalid upload URL '" ++ text ++ "': " ++ error.message
  | .badSettings error => (Failure.badConfig error).message
  | .badEndpoint path =>
    "Invalid endpoint " ++ path ++ ": relative URL with a cannot-be-a-base base"
  | .unreachable action address reason => action ++ " " ++ address ++ " failed: " ++ reason
  | .refused address code body => address ++ " returned HTTP " ++ toString code ++ ": " ++ body
  | .badReply reason => "Protocol error: " ++ reason
  | .missingFile path => "File not found: " ++ path
  | .unfit path problems =>
    path ++ " failed validation:\n  " ++ Text.join "\n  " (problems.map UploadProblem.message)
  | .failed transaction events =>
    "Onboarding transaction " ++ transaction ++ " failed: " ++ Text.join "; " events
  | .timeout transaction waited =>
    "Onboarding transaction " ++ transaction ++ " did not finish within " ++
      toString (waited / 1000) ++ " seconds"

end NfvCatalog
