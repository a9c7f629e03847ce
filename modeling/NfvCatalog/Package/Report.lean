import NfvCatalog.Archive.Tape
import NfvCatalog.Descriptor.Load

/-! # Inspecting packages

A report lists the files of a package and compares them with its manifest. The descriptor of a
package is the file at its root that is named after the root and the kind of descriptor.
-/

namespace NfvCatalog

/-- The members of the archive in a file. -/
def PackageContents.membersOf : FileContent → Except PackingFault (List ArchiveMember)
  | .bytes bytes => Archive.read bytes
  | .archive members =>
    .ok (members.map fun member => { member with path := MemberPath.stored member.path })

/-- The contents of the package at a path. -/
def PackageContents.load (tree : FileTree) (path : String) : Except Failure PackageContents :=
  match tree.at? path with
  | .error error => .error (.unopened path error)
  | .ok .directory => .error (.unreadArchive .isDirectory)
  | .ok (.file content _) =>
    match membersOf content with
    | .error fault => .error (.notArchive fault)
    | .ok members => (PackageContents.ofMembers members).mapError (.badArchive path)

/-- The descriptor file of a package. -/
structure DescriptorFile where
  path : String
  kind : DescriptorKind
  format : Format
deriving DecidableEq, Repr, Inhabited

namespace PackageContents

/-- The text behind a prefix. -/
def after? (start text : List Char) : Option (List Char) :=
  if start.isPrefixOf text then some (text.drop start.length) else none

/-- The kind of descriptor that a file's name tells. -/
def descriptorKind? (root path : String) : Option DescriptorKind :=
  let tail := path.toList.reverse.takeWhile (· ≠ '.')
  let stem := (path.toList.take (path.toList.length - tail.length)).dropLast
  (after? (root.toList ++ ['_']) stem).bind fun kind => DescriptorKind.ofName? (String.ofList kind)

/-- The descriptor that a file is, if it is one. -/
def descriptorFile? (root path : String) : Option DescriptorFile :=
  if path.toList.contains '/' then none
  else
    match Format.ofPath? path, descriptorKind? root path with
    | some format, some kind => some ⟨path, kind, format⟩
    | _, _ => none

/-- The first descriptor among the files. -/
def descriptor? (contents : PackageContents) : Option DescriptorFile :=
  contents.files.findSome? fun file => descriptorFile? contents.root file.1

end PackageContents

/-- A file of a package. -/
structure PackageEntry where
  path : String
  size : Nat
  digest : Digest
deriving DecidableEq, Repr

/-- What a package holds, and how it agrees with its manifest. -/
structure PackageReport where
  name : String
  kind : Option DescriptorKind := none
  descriptor : Option String := none
  entries : List PackageEntry := []
  hasManifest : Bool := false
  /-- The files whose digest is not the listed one. -/
  mismatched : List String := []
  /-- The listed files that are absent. -/
  missing : List String := []
  /-- The files that are not listed. -/
  unlisted : List String := []
deriving DecidableEq, Repr

namespace PackageReport

/-- Whether a package can be relied on: it has a descriptor and every listed file as listed. -/
def isValid (report : PackageReport) : Bool :=
  report.descriptor.isSome && report.hasManifest && report.mismatched.isEmpty &&
    report.missing.isEmpty

/-- The entry of a file. -/
def entryAt? (entries : List PackageEntry) (path : String) : Option PackageEntry :=
  entries.find? (·.path = path)

/-- Compare entries with what is listed. -/
def compare (report : PackageReport) (listed : List (String × Digest)) : PackageReport :=
  { report with
    hasManifest := true
    mismatched := (listed.filter fun (path, digest) =>
      match entryAt? report.entries path with
      | some entry => entry.digest ≠ digest
      | none => false).map Prod.fst
    missing := (listed.filter fun (path, _) => (entryAt? report.entries path).isNone).map Prod.fst
    unlisted := (report.entries.filter fun entry =>
      entry.path ≠ Manifest.fileName ∧ (Keyed.get? listed entry.path).isNone).map (·.path) }

/-- The report on the contents of a package. -/
def ofContents (contents : PackageContents) : Except ManifestError PackageReport :=
  let descriptor := contents.descriptor?
  let report : PackageReport :=
    { name := contents.root
      kind := descriptor.map (·.kind)
      descriptor := descriptor.map (·.path)
      entries :=
        contents.files.map fun (path, bytes) => ⟨path, bytes.length, Digest.ofBytes bytes⟩ }
  match contents.file? Manifest.fileName with
  | none => .ok report
  | some bytes =>
    match Manifest.parse (Utf8.lossy bytes) with
    | .error error => .error error
    | .ok listed => .ok (report.compare (Keyed.ofList listed))

/-- Inspect the package at a path. -/
def inspect (tree : FileTree) (path : String) : Except Failure PackageReport := do
  let contents ← PackageContents.load tree path
  match ofContents contents with
  | .ok report => return report
  | .error error => throw (.badManifest error)

end PackageReport

/-- The descriptors in the package at a path, and the kind that their file is named for. -/
def DescriptorSet.loadPackage (tree : FileTree) (path : String) :
    Except Failure (DescriptorKind × DescriptorSet) := do
  let contents ← PackageContents.load tree path
  match contents.descriptor? with
  | none => throw (.noDescriptor path)
  | some file =>
    let text := Utf8.lossy ((contents.file? file.path).getD [])
    match DescriptorSet.parse file.format text with
    | .ok set => return (file.kind, set)
    | .error error => throw (.malformedMember path file.path error)

end NfvCatalog
