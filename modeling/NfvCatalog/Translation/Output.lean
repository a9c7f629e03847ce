import NfvCatalog.Package.Plan
import NfvCatalog.Translation.Assembly

/-! # Writing translated descriptors

Every descriptor of a service gets a file, or a package with the files that it needs. Files are
named after descriptors; a name that is taken is followed by the id, and then by a number.
-/

namespace NfvCatalog.Translation

/-- Whether a character may stand in the name of a file. -/
def isStemChar (c : Char) : Bool := c.isAlphanum || c = '_' || c = '-' || c = '.'

/-- A descriptor's name as the name of a file. -/
def fileStem (name : String) : String :=
  if name.isEmpty then "descriptor"
  else String.ofList (name.toList.map fun c => if isStemChar c then c else '_')

/-- How a service is written. -/
structure OutputOptions where
  format : Format := .yaml
  /-- Write packages instead of bare descriptors. -/
  archive : Bool := false
deriving DecidableEq, Repr, Inhabited

/-- What tells written names apart: a bare descriptor's file also names its kind. -/
def nameKey (archive : Bool) (kind : DescriptorKind) (stem : String) : String :=
  if archive then stem else stem ++ "_" ++ kind.name

/-- The stems to try for a descriptor, as many as are needed beside a number of taken names. -/
def stems (name id : String) (taken : Nat) : List String :=
  let base := fileStem name
  let withId := base ++ "_" ++ fileStem id
  base :: withId :: (List.range taken).map fun n => withId ++ "_" ++ toString (n + 2)

/-- The first stem of a descriptor whose name is not taken. -/
def claimStem (archive : Bool) (used : List String) (kind : DescriptorKind) (name id : String) :
    String :=
  ((stems name id used.length).find? fun stem => nameKey archive kind stem ∉ used).getD
    (fileStem name)

/-- A descriptor to be written. -/
structure OutputItem where
  kind : DescriptorKind
  name : String
  id : String
  text : String
  owner : ArtifactOwner
deriving DecidableEq, Repr, Inhabited

/-- The descriptors of a service: the functions, then the service itself. -/
def Service.items (service : Service) (format : Format) : List OutputItem :=
  service.vnfds.map (fun vnfd =>
    { kind := .vnfd, name := vnfd.displayName, id := vnfd.id, text := vnfd.print format
      owner := .vnfd vnfd.id }) ++
    [{ kind := .nsd, name := service.nsd.displayName, id := service.nsd.id
       text := service.nsd.print format, owner := .nsd }]

/-- Plan the files that a descriptor needs; those that are not there are left out. -/
def addArtifacts (tree : FileTree) (source : String) :
    List Artifact → PackagePlan → Except Failure PackagePlan
  | [], plan => .ok plan
  | artifact :: rest, plan =>
    let path := Path.join source artifact.source
    if tree.isFile path then do
      addArtifacts tree source rest (← plan.addFile tree artifact.kind.directory path)
    else addArtifacts tree source rest plan

/-- Write one descriptor under a stem. -/
def writeItem (tree : FileTree) (service : Service) (options : OutputOptions)
    (target source stem : String) (item : OutputItem) : FileTree × Except Failure String :=
  if options.archive then
    let plan : PackagePlan :=
      { kind := item.kind, name := stem, descriptor := item.text, format := options.format }
    match addArtifacts tree source (service.artifacts.filter (·.owner = item.owner)) plan with
    | .error failure => (tree, .error failure)
    | .ok plan => plan.build tree target
  else
    let path := Path.join target (stem ++ "_" ++ item.kind.name ++ "." ++ options.format.name)
    match tree.writeText path item.text with
    | .error error => (tree, .error (.unwritten path error))
    | .ok tree => (tree, .ok path)

/-- Write descriptors one after another until one fails. -/
def writeItems (service : Service) (options : OutputOptions) (target source : String) :
    FileTree → List String → List OutputItem → FileTree × Except Failure (List String)
  | tree, _, [] => (tree, .ok [])
  | tree, used, item :: rest =>
    let stem := claimStem options.archive used item.kind item.name item.id
    match writeItem tree service options target source stem item with
    | (tree, .error failure) => (tree, .error failure)
    | (tree, .ok path) =>
      let used := nameKey options.archive item.kind stem :: used
      match writeItems service options target source tree used rest with
      | (tree, .error failure) => (tree, .error failure)
      | (tree, .ok paths) => (tree, .ok (path :: paths))

/-- Write a service into a directory, which is made if need be. Packages take their files from the
source directory. The paths of what was written are the answer. -/
def Service.write (tree : FileTree) (service : Service) (target source : String)
    (options : OutputOptions) : FileTree × Except Failure (List String) :=
  match tree.makeDirectories target with
  | .error error => (tree, .error (.uncreated target error))
  | .ok tree => writeItems service options target source tree [] (service.items options.format)

end NfvCatalog.Translation
