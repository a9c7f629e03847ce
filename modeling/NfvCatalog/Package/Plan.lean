import NfvCatalog.Package.Report

/-! # Building packages

A package is planned before it is built: its descriptor, and the supporting files for each of its
directories. Building the same plan twice gives the same archive.
-/

namespace NfvCatalog

/-- The directories of a package for supporting files. -/
def packageDirectories : List String := ["images", "cloud_init", "scripts", "icons"]

/-- A package to be built. -/
structure PackagePlan where
  kind : DescriptorKind
  name : String
  /-- The text of the descriptor. -/
  descriptor : String
  format : Format := .yaml
  /-- The supporting files: the path in the package and the path of the source. -/
  files : List (String × String) := []
deriving DecidableEq, Repr, Inhabited

namespace PackagePlan

/-- The path of the descriptor in the package. -/
def descriptorPath (plan : PackagePlan) : String :=
  plan.name ++ "_" ++ plan.kind.name ++ "." ++ plan.format.name

/-- Plan a supporting file. A file that has the name of a planned one is left out. -/
def addFile (tree : FileTree) (plan : PackagePlan) (directory path : String) :
    Except Failure PackagePlan :=
  if !packageDirectories.contains directory then
    .error (.unknownDirectory directory packageDirectories)
  else if !tree.isFile path then .error (.missingFile path)
  else
    match Path.fileName? path with
    | none => .error (.missingFile path)
    | some name =>
      let entry := directory ++ "/" ++ name
      if plan.files.any (·.1 = entry) then .ok plan
      else .ok { plan with files := plan.files ++ [(entry, path)] }

/-- The bytes of a source file. A packed archive has no bytes that matter. -/
def sourceBytes (tree : FileTree) (path : String) : Except Failure (List UInt8) :=
  match tree.read path with
  | .ok (.bytes bytes) => .ok bytes
  | .ok (.archive _) => .ok []
  | .error error => .error (.unreadable path error)

/-- Read the supporting files. -/
def readFiles (tree : FileTree) :
    List (String × String) → Except Failure (List (String × List UInt8))
  | [] => .ok []
  | (entry, source) :: rest => do
    let bytes ← sourceBytes tree source
    return (entry, bytes) :: (← readFiles tree rest)

/-- The files of the package: the descriptor, the supporting files by path, and the manifest. -/
def contents (tree : FileTree) (plan : PackagePlan) :
    Except Failure (List (String × List UInt8)) := do
  let files ← readFiles tree (plan.files.mergeSort fun a b => Text.le a.1 b.1)
  let listed := (plan.descriptorPath, Utf8.encode plan.descriptor) :: files
  let manifest := Manifest.format (listed.map fun (path, bytes) => (path, Digest.ofBytes bytes))
  return listed ++ [(Manifest.fileName, Utf8.encode manifest)]

/-- The directory of a path, if it names one. -/
def directoryOf? (path : String) : Option String :=
  let tail := path.toList.reverse.takeWhile (· ≠ '/')
  if tail.length = path.toList.length then none
  else some (String.ofList (path.toList.take (path.toList.length - tail.length - 1)))

/-- The directories of files, each once, in the order in which they come up. -/
def directories (paths : List String) : List String := (paths.filterMap directoryOf?).eraseDups

/-- The members of the archive: the directories, then the files. -/
def members (name : String) (contents : List (String × List UInt8)) : List ArchiveMember :=
  let inner := (directories (contents.map Prod.fst)).filter (· ≠ "")
  { path := name ++ "/", kind := .directory } ::
    inner.map (fun directory => { path := name ++ "/" ++ directory ++ "/", kind := .directory }) ++
    contents.map (fun (path, bytes) => { path := name ++ "/" ++ path, kind := .file bytes })

/-- The archive of a plan. -/
def archive (tree : FileTree) (plan : PackagePlan) : Except Failure (List ArchiveMember) := do
  let members := members plan.name (← plan.contents tree)
  match members.findSome? fun member => MemberPath.fault? member.path with
  | some fault => throw (.badMemberPath fault)
  | none => return members

/-- Build the package in a directory, which is made if need be. The path of the package is the
answer. -/
def build (tree : FileTree) (plan : PackagePlan) (directory : String) :
    FileTree × Except Failure String :=
  match tree.makeDirectories directory with
  | .error error => (tree, .error (.uncreated directory error))
  | .ok tree =>
    match plan.archive tree with
    | .error failure => (tree, .error failure)
    | .ok members =>
      let path := Path.join directory (plan.name ++ ".tar.gz")
      match tree.write path (.archive members) with
      | .error error => (tree, .error (.unwritten path error))
      | .ok tree => (tree, .ok path)

end PackagePlan

end NfvCatalog
