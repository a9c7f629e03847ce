import NfvCatalog.Archive.Inflate
import NfvCatalog.Cleanup.Resource
import NfvCatalog.Config.Settings
import NfvCatalog.Descriptor.Set
import NfvCatalog.Package.Contents
import NfvCatalog.Package.Manifest
import NfvCatalog.Pattern.Glob
import NfvCatalog.Pattern.RegexReader
import NfvCatalog.Shell.Launch

/-! # Failures of the tools

The failures that the tools around the catalog share. A failure states its cause; its category and
its wording are functions of it.
-/

namespace NfvCatalog

/-- The categories of failures. -/
inductive FailureCategory where
  | files
  | bareFiles
  | parsing
  | notFound
  | invalidDescriptor
  | configuration
  | toolNotFound
  | command
  | timeout
  | cloud
  | bareJson
deriving DecidableEq, Repr, Inhabited

/-- The words in front of a failure's detail. -/
def FailureCategory.lead : FailureCategory → String
  | .files => "I/O error: "
  | .bareFiles => ""
  | .parsing => "Parse error: "
  | .notFound => "Not found: "
  | .invalidDescriptor => "Invalid descriptor: "
  | .configuration => "Configuration error: "
  | .toolNotFound => "Tool not found: "
  | .command => "Command failed: "
  | .timeout => "Timed out: "
  | .cloud => "Cloud error: "
  | .bareJson => "JSON error: "

/-- Why a tool fails. -/
inductive Failure where
  | unreadable (path : String) (error : FileError)
  | uncreated (path : String) (error : FileError)
  | unwritten (path : String) (error : FileError)
  | malformed (error : DocumentError)
  | malformedFile (path : String) (error : DocumentError)
  | missingFile (path : String)
  | unopened (path : String) (error : FileError)
  | notArchive (fault : PackingFault)
  | unreadArchive (error : FileError)
  | badArchive (path : String) (fault : ArchiveFault)
  | badManifest (error : ManifestError)
  | noDescriptor (path : String)
  | malformedMember (path member : String) (error : DocumentError)
  | unknownDirectory (name : String) (known : List String)
  | badMemberPath (fault : MemberPathFault)
  | badConfig (error : ConfigError)
  | unreadConfig (path : String) (error : FileError)
  | badNamePattern (error : RegexError)
  | badExcludePattern (pattern : String) (error : GlobError)
  | missingTarget (path : String)
  | unknownAccount (name : String)
  | unreadState (path : String) (error : FileError)
  | noResource (kind : ResourceKind) (id : String)
  | cloud (reason : String)
  | malformedListing (noun : String) (fault : Fault)
  | clientFailed (arguments : List String) (code : Int) (errors : String)
  | toolMissing (name : String)
  | notSpawned (program : String) (error : SpawnError)
  | outOfTime (program : String) (milliseconds : Nat)
deriving DecidableEq, Repr, Inhabited

namespace Failure

/-- The category of a failure. -/
def category : Failure → FailureCategory
  | .unreadable .. | .uncreated .. | .unwritten .. | .unopened .. | .unreadState .. => .files
  | .notArchive _ | .unreadArchive _ | .badMemberPath _ => .bareFiles
  | .malformed _ | .malformedFile .. | .badManifest _ | .malformedMember .. |
    .malformedListing .. => .parsing
  | .missingFile _ | .missingTarget _ | .unknownAccount _ => .notFound
  | .badConfig _ | .unreadConfig .. | .badNamePattern _ | .badExcludePattern .. => .configuration
  | .noResource .. | .cloud _ => .cloud
  | .clientFailed .. | .notSpawned .. => .command
  | .toolMissing _ => .toolNotFound
  | .outOfTime .. => .timeout
  | .badArchive .. | .noDescriptor _ | .unknownDirectory .. => .invalidDescriptor

/-- What a failure says beyond its category. -/
def detail : Failure → String
  | .unreadable path error => "Failed to read " ++ path ++ ": " ++ error.message
  | .uncreated path error => "Failed to create " ++ path ++ ": " ++ error.message
  | .unwritten path error => "Failed to write " ++ path ++ ": " ++ error.message
  | .malformed error => error.message
  | .malformedFile path error => path ++ ": " ++ error.message
  | .missingFile path => path
  | .unopened path error => "Failed to open package " ++ path ++ ": " ++ error.message
  | .notArchive fault => fault.message
  | .unreadArchive error => error.message
  | .badArchive path fault => path ++ ": " ++ fault.message
  | .badManifest error => Manifest.errorMessage error
  | .noDescriptor path => path ++ ": no descriptor found in package"
  | .malformedMember path member error =>
    path ++ "!" ++ member ++ ": " ++ FailureCategory.parsing.lead ++ error.message
  | .unknownDirectory name known =>
    "'" ++ name ++ "' is not a package directory (expected one of " ++ Text.join ", " known ++ ")"
  | .badMemberPath fault => fault.message
  | .badConfig error => error.message
  | .unreadConfig path error => "Failed to read " ++ path ++ ": " ++ error.message
  | .badNamePattern error => "Invalid name pattern: " ++ error.message
  | .badExcludePattern pattern error =>
    "Invalid exclude pattern '" ++ pattern ++ "': " ++ error.message
  | .missingTarget path => "target directory " ++ path
  | .unknownAccount name => "cloud account '" ++ name ++ "' in config"
  | .unreadState path error =>
    "Failed to read mock cloud state " ++ path ++ ": " ++ error.message
  | .noResource kind id => "no " ++ kind.name ++ " with id " ++ id
  | .cloud reason => reason
  | .malformedListing noun fault => "openstack " ++ noun ++ " list output: " ++ fault.message
  | .clientFailed arguments code errors =>
    "openstack " ++ Text.join " " arguments ++ " exited with " ++ toString code ++ ": " ++ errors
  | .toolMissing name => name
  | .notSpawned program error => "Failed to spawn '" ++ program ++ "': " ++ error.message
  | .outOfTime program milliseconds =>
    "'" ++ program ++ "' did not finish within " ++ toString (milliseconds / 1000) ++ " seconds"

/-- The wording of a failure. -/
def message (failure : Failure) : String := failure.category.lead ++ failure.detail

end Failure

end NfvCatalog
