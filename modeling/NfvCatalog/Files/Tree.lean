import NfvCatalog.Files.Path
import NfvCatalog.Text.Utf8

/-! # Trees of files

A tree maps places to directories and files. A place is the list of names on the way to it from the
working directory. Archives are kept as the list of their members: how they are packed does not
matter to anything that is done with them.
-/

namespace NfvCatalog

/-- What a member of an archive is. -/
inductive MemberKind where
  | file (bytes : List UInt8)
  | directory
  | link
deriving DecidableEq, Repr, Inhabited

/-- A member of an archive, with its path as written there. -/
structure ArchiveMember where
  path : String
  kind : MemberKind
deriving DecidableEq, Repr, Inhabited

/-- What a file holds. -/
inductive FileContent where
  | bytes (bytes : List UInt8)
  | archive (members : List ArchiveMember)
deriving DecidableEq, Repr, Inhabited

/-- What stands at a place. -/
inductive FileEntry where
  | directory
  | file (content : FileContent) (executable : Bool)
deriving DecidableEq, Repr, Inhabited

/-- Why an operation on files fails. -/
inductive FileError where
  | notFound
  | badStream
  | denied
  | exists
  | notDirectory
  | isDirectory
  | nameTooLong
  | notEmpty
  | hasNul
  | notText
deriving DecidableEq, Repr, Inhabited

namespace FileError

/-- The reason that a file error gives. -/
def reason : FileError → String
  | .notFound => "No such file or directory"
  | .badStream => "Bad file descriptor"
  | .denied => "Permission denied"
  | .exists => "File exists"
  | .notDirectory => "Not a directory"
  | .isDirectory => "Is a directory"
  | .nameTooLong => "File name too long"
  | .notEmpty => "Directory not empty"
  | .hasNul => "file name contained an unexpected NUL byte"
  | .notText => "stream did not contain valid UTF-8"

/-- The number that the system has for a file error. -/
def number? : FileError → Option Nat
  | .notFound => some 2
  | .badStream => some 9
  | .denied => some 13
  | .exists => some 17
  | .notDirectory => some 20
  | .isDirectory => some 21
  | .nameTooLong => some 36
  | .notEmpty => some 39
  | .hasNul | .notText => none

/-- The wording of a file error. -/
def message (error : FileError) : String :=
  match error.number? with
  | some number => error.reason ++ " (os error " ++ toString number ++ ")"
  | none => error.reason

end FileError

/-- The most bytes that a name may have. -/
def longestName : Nat := 255

/-- The most bytes that a path may have. -/
def longestPath : Nat := 4095

/-- The names on the way to a place. -/
abbrev Place := List String

/-- A tree of files below the working directory. -/
structure FileTree where
  entries : List (Place × FileEntry) := []
deriving DecidableEq, Repr, Inhabited

namespace FileTree

/-- What stands at a place. The working directory is always there. -/
def entryAt? (tree : FileTree) (place : Place) : Option FileEntry :=
  if place.isEmpty then some .directory
  else (tree.entries.find? (·.1 = place)).map Prod.snd

/-- Follow the components of a path from a place. Every place on the way must be a directory. What
lies outside of the tree is not there. -/
def follow (tree : FileTree) : Place → List Path.Component → Except FileError Place
  | place, [] => .ok place
  | place, component :: rest =>
    match tree.entryAt? place with
    | none => .error .notFound
    | some (.file ..) => .error .notDirectory
    | some .directory =>
      match component with
      | .root => .error .notFound
      | .current => follow tree place rest
      | .parent => if place.isEmpty then .error .notFound else follow tree place.dropLast rest
      | .normal name =>
        if longestName < name.utf8ByteSize then .error .nameTooLong
        else follow tree (place ++ [name]) rest

/-- Whether a path ends in a slash. -/
def endsInSlash (path : String) : Bool := path.toList.getLast? = some '/'

/-- Whether a path ends in a dot that stands for the directory before it. -/
def endsInDot (path : String) : Bool :=
  match (Text.split '/' path).reverse with
  | last :: _ :: _ => last = "."
  | _ => false

/-- The place of a path. A slash or a dot at the end asks for a directory, which has to be there for
a dot. -/
def locate (tree : FileTree) (path : String) : Except FileError Place :=
  if path.toList.contains '\x00' then .error .hasNul
  else if path.isEmpty then .error .notFound
  else if longestPath < path.utf8ByteSize then .error .nameTooLong
  else
    match tree.follow [] (Path.components path) with
    | .error error => .error error
    | .ok place =>
      match tree.entryAt? place with
      | some (.file ..) =>
        if endsInSlash path || endsInDot path then .error .notDirectory else .ok place
      | some .directory => .ok place
      | none => if endsInDot path then .error .notFound else .ok place

/-- What stands at a path. -/
def at? (tree : FileTree) (path : String) : Except FileError FileEntry :=
  match tree.locate path with
  | .error error => .error error
  | .ok place =>
    match tree.entryAt? place with
    | some entry => .ok entry
    | none => .error .notFound

/-- Whether something stands at a path. -/
def has (tree : FileTree) (path : String) : Bool :=
  match tree.at? path with
  | .ok _ => true
  | .error _ => false

/-- Whether a file stands at a path. -/
def isFile (tree : FileTree) (path : String) : Bool :=
  match tree.at? path with
  | .ok (.file ..) => true
  | _ => false

/-- Whether a directory stands at a path. -/
def isDirectory (tree : FileTree) (path : String) : Bool :=
  match tree.at? path with
  | .ok .directory => true
  | _ => false

/-- The content of a file. -/
def read (tree : FileTree) (path : String) : Except FileError FileContent :=
  match tree.at? path with
  | .ok (.file content _) => .ok content
  | .ok .directory => .error .isDirectory
  | .error error => .error error

/-- The text of a file. A packed archive is not text. -/
def readText (tree : FileTree) (path : String) : Except FileError String :=
  match tree.read path with
  | .ok (.bytes bytes) =>
    match Utf8.decode? bytes with
    | some text => .ok text
    | none => .error .notText
  | .ok (.archive _) => .error .notText
  | .error error => .error error

/-- Put an entry at a place. -/
def put (tree : FileTree) (place : Place) (entry : FileEntry) : FileTree :=
  if tree.entries.any (·.1 = place) then
    ⟨tree.entries.map fun old => if old.1 = place then (place, entry) else old⟩
  else ⟨tree.entries ++ [(place, entry)]⟩

/-- Write a file at a place. Its directory must be there; a file that is there keeps its mode. -/
def writeAt (tree : FileTree) (place : Place) (content : FileContent) :
    Except FileError FileTree :=
  match tree.entryAt? place with
  | some .directory => .error .isDirectory
  | some (.file _ executable) => .ok (tree.put place (.file content executable))
  | none =>
    match tree.entryAt? place.dropLast with
    | some .directory => .ok (tree.put place (.file content false))
    | some (.file ..) => .error .notDirectory
    | none => .error .notFound

/-- Write a file. What has a slash at the end is never a file. -/
def write (tree : FileTree) (path : String) (content : FileContent) : Except FileError FileTree :=
  match tree.locate path with
  | .error .notDirectory =>
    let isFound := (tree.follow [] (Path.components path)).toOption.isSome
    .error (if endsInSlash path && isFound then .isDirectory else .notDirectory)
  | .error error => .error error
  | .ok place => if endsInSlash path then .error .isDirectory else tree.writeAt place content

/-- Write a text file. -/
def writeText (tree : FileTree) (path text : String) : Except FileError FileTree :=
  tree.write path (.bytes (Utf8.encode text))

/-- Make a directory in one that is there. -/
def makeDirectory (tree : FileTree) (path : List Path.Component) : Except FileError FileTree :=
  match tree.follow [] path with
  | .error error => .error error
  | .ok place =>
    if (tree.entryAt? place).isSome then .error .exists else .ok (tree.put place .directory)

/-- Make a directory unless it is there already. -/
def ensureDirectory (tree : FileTree) (path : List Path.Component) : Except FileError FileTree :=
  match tree.makeDirectory path with
  | .ok made => .ok made
  | .error error =>
    match tree.follow [] path with
    | .ok place => if tree.entryAt? place = some .directory then .ok tree else .error error
    | .error _ => .error error

/-- Make a directory, with those above it that are missing. The path comes in reverse. -/
def makeAll (tree : FileTree) : List Path.Component → Except FileError FileTree
  | [] => .ok tree
  | last :: above =>
    let path := (last :: above).reverse
    match tree.ensureDirectory path with
    | .error .notFound => do (← tree.makeAll above).ensureDirectory path
    | made => made

/-- Make a directory and all above it. One that is named by a dot at the end has to be there. -/
def makeDirectories (tree : FileTree) (path : String) : Except FileError FileTree :=
  if path.toList.contains '\x00' then .error .hasNul
  else if path.isEmpty then .ok tree
  else if longestPath < path.utf8ByteSize then .error .nameTooLong
  else if endsInDot path then (tree.locate path).map fun _ => tree
  else tree.makeAll (Path.components path).reverse

/-- Whether a place lies below another. -/
def isBelow (directory place : Place) : Bool :=
  directory.length < place.length && directory.isPrefixOf place

/-- Remove what stands at a path, with all below it. -/
def remove (tree : FileTree) (path : String) : FileTree :=
  match tree.locate path with
  | .ok place => ⟨tree.entries.filter fun e => e.1 ≠ place ∧ ¬ isBelow place e.1⟩
  | .error _ => tree

/-- The names inside a directory, sorted. -/
def names (tree : FileTree) (directory : Place) : List String :=
  let inside := tree.entries.filterMap fun e =>
    if e.1.length = directory.length + 1 ∧ isBelow directory e.1 then e.1.getLast? else none
  inside.mergeSort Text.le

end FileTree

end NfvCatalog
