import NfvCatalog.Files.Tree
import NfvCatalog.Text.Keyed

/-! # Members of archives

What paths the members of an archive can be written with, and what the members that are read hold.
-/

/-! ## Paths that are written

A member of an archive that is written must have a relative path that does not lead upwards. A path
of a hundred bytes or more is also kept in full elsewhere, and only its beginning is checked. Where
a path fits the head of its member, a zero byte in it ends it.
-/

namespace NfvCatalog

/-- What is wrong with the path of a member. Each fault has the part of the path before it. -/
inductive MemberPathFault where
  | absolute (before : String)
  | leadsUp (before : String)
  | nulByte (before : String)
deriving DecidableEq, Repr, Inhabited

namespace MemberPathFault

/-- The wording of a fault. -/
def message : MemberPathFault → String
  | .absolute before => "paths in archives must be relative when setting path for " ++ before
  | .leadsUp before => "paths in archives must not have `..` when setting path for " ++ before
  | .nulByte before => "provided value contains a nul byte when setting path for " ++ before

end MemberPathFault

namespace MemberPath

/-- The most bytes of a path that a member's own head has room for. -/
def headSize : Nat := 100

/-- The first fault of a path after the part that was looked at. A path that was cut may end in a
step upwards: the name may go on. -/
def faultAfter? (cutShort : Bool) : String → List Path.Component → Option MemberPathFault
  | _, [] => none
  | before, component :: rest =>
    let lead := if before.isEmpty then "" else before ++ "/"
    match component with
    | .root => some (.absolute before)
    | .current => faultAfter? cutShort before rest
    | .parent =>
      if cutShort && rest.isEmpty then none else some (.leadsUp before)
    | .normal name =>
      if name.toList.contains (Char.ofNat 0) then some (.nulByte lead)
      else faultAfter? cutShort (lead ++ name) rest

/-- The characters of a text that fit into a number of bytes. -/
def fitting : Nat → List Char → List Char
  | _, [] => []
  | room, c :: rest => if c.utf8Size ≤ room then c :: fitting (room - c.utf8Size) rest else []

/-- What is wrong with a path, if anything. -/
def fault? (path : String) : Option MemberPathFault :=
  match faultAfter? false "" (Path.components path) with
  | none => none
  | some fault =>
    if path.utf8ByteSize < headSize then some fault
    else
      faultAfter? true "" (Path.components (String.ofList (fitting headSize path.toList)))

/-- The path that is read back: in a member's own head a zero byte ends it. -/
def stored (path : String) : String :=
  if path.utf8ByteSize ≤ headSize then String.ofList (path.toList.takeWhile (· ≠ Char.ofNat 0))
  else path

end MemberPath

end NfvCatalog

/-! ## Contents that are read

The members of a package lie in one directory, its root. No member may lead out of it; directories
and links hold nothing.
-/

namespace NfvCatalog

/-- Why the members of an archive do not make a package. -/
inductive ArchiveFault where
  | unsafePath (member : String)
  | severalRoots (first second : String)
  | empty
deriving DecidableEq, Repr, Inhabited

/-- The wording of an archive fault. -/
def ArchiveFault.message : ArchiveFault → String
  | .unsafePath member => "unsafe archive path " ++ member
  | .severalRoots first second =>
    "package has more than one top-level directory (" ++ first ++ " and " ++ second ++ ")"
  | .empty => "empty package"

/-- The files of a package, by their paths below its root, sorted. -/
structure PackageContents where
  root : String
  files : List (String × List UInt8)
deriving DecidableEq, Repr, Inhabited

namespace PackageContents

/-- The names on a member's path; nothing if the path leads elsewhere. Single dots do not count. -/
def names? : List Path.Component → Option (List String)
  | [] => some []
  | .current :: rest => names? rest
  | .normal name :: rest => (names? rest).map (name :: ·)
  | _ => none

/-- Add a member to what was read before. -/
def addMember (before : Option PackageContents) (member : ArchiveMember) :
    Except ArchiveFault (Option PackageContents) :=
  match names? (Path.components member.path) with
  | none => .error (.unsafePath member.path)
  | some [] => .ok before
  | some (root :: inner) =>
    let contents := before.getD ⟨root, []⟩
    if contents.root ≠ root then .error (.severalRoots contents.root root)
    else
      match member.kind, inner with
      | .file bytes, _ :: _ =>
        .ok (some { contents with files := Keyed.put (Text.join "/" inner) bytes contents.files })
      | _, _ => .ok (some contents)

/-- Add members in order. -/
def addMembers : Option PackageContents → List ArchiveMember →
    Except ArchiveFault (Option PackageContents)
  | before, [] => .ok before
  | before, member :: rest => do addMembers (← addMember before member) rest

/-- The contents of an archive with the given members. -/
def ofMembers (members : List ArchiveMember) : Except ArchiveFault PackageContents :=
  match addMembers none members with
  | .error fault => .error fault
  | .ok none => .error .empty
  | .ok (some contents) => .ok contents

/-- The bytes of a file. -/
def file? (contents : PackageContents) (path : String) : Option (List UInt8) :=
  Keyed.get? contents.files path

end PackageContents

end NfvCatalog
