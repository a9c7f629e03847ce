import NfvCatalog.Files.Tree
import NfvCatalog.Text.Utf8

/-! # Starting programs

How the name of a program leads to a program of the machine. A name without a slash is looked for in
directories; a text file that can be run names its interpreter in its first line. Names, paths and
arguments are texts of bytes; `place` gives the path in the tree that such a path stands for.
-/

namespace NfvCatalog

/-- Why a program does not start. -/
inductive SpawnError where
  | file (error : FileError)
  | badFormat
  | tooManyLevels
  | hasNul
deriving DecidableEq, Repr, Inhabited

/-- The wording of a start error. -/
def SpawnError.message : SpawnError → String
  | .file error => error.message
  | .badFormat => "Exec format error (os error 8)"
  | .tooManyLevels => "Too many levels of symbolic links (os error 40)"
  | .hasNul => "nul byte found in provided data"

namespace Shell

/-- A start of a program that the machine has: the program, the name that it is called by, and its
arguments. -/
structure Launch where
  utility : String
  name : String
  arguments : List String
deriving DecidableEq, Repr, Inhabited

namespace Launch

/-- The programs that every machine has. -/
def utilities : List String :=
  ["sh", "bash", "dash", "[", "arch", "basename", "cat", "chmod", "cp", "cut", "dirname", "echo",
    "env", "expr", "false", "fold", "grep", "head", "id", "ln", "ls", "mkdir", "mv", "nice", "nl",
    "nohup", "nproc", "paste", "printenv", "printf", "pwd", "readlink", "realpath", "rev", "rm",
    "rmdir", "sed", "seq", "sleep", "sort", "stat", "tac", "tail", "tee", "test", "timeout",
    "touch", "tr", "true", "uname", "uniq", "wc", "which", "whoami", "xargs", "yes"]

/-- The shells among them. -/
def shells : List String := ["sh", "bash", "dash"]

/-- The directories of those programs. -/
def utilityDirectories : List String := ["/bin", "/usr/bin"]

/-- The directories that are searched if nothing else is said. -/
def standardPath : String := "/usr/local/sbin:/usr/local/bin:/usr/sbin:/usr/bin:/sbin:/bin"

/-- Directories that every machine has outside of the tree. -/
def outerDirectories : List String :=
  ["/", "/usr", "/etc", "/dev", "/home", "/lib", "/opt", "/proc", "/root", "/sbin", "/sys", "/tmp",
    "/usr/lib", "/usr/local", "/usr/local/bin", "/usr/local/sbin", "/usr/sbin", "/var"] ++
    utilityDirectories

/-- A path from the root without steps back; the root has nothing above it. -/
def straightened (path : String) : String :=
  let step (done : List Path.Component) (part : Path.Component) : List Path.Component :=
    match part with
    | .parent => if done.length ≤ 1 then done else done.dropLast
    | .current => done
    | part => done ++ [part]
  Path.ofComponents ((Path.components path).foldl step [])

/-- The program of the machine at a path. -/
def utilityAt? (path : String) : Option String :=
  let place := straightened path
  utilities.find? fun name =>
    utilityDirectories.any fun directory => directory ++ "/" ++ name = place

/-- Whether a path leads to a directory outside of the tree. -/
def isOuterDirectory (path : String) : Bool :=
  let parts := Path.components path
  (parts.contains .root && outerDirectories.contains (straightened path)) ||
    (parts.contains .parent && parts.all fun part => part = .parent || part = .current)

/-- The bytes of a first line that count. -/
def lineLimit : Nat := 256

/-- The interpreter that a text file names behind its mark, and its argument, all that follows up to
the end of the line. -/
def interpreter? (content : FileContent) : Option (String × List String) :=
  match content with
  | .bytes (0x23 :: 0x21 :: rest) =>
    let line := Octets.ofBytes ((rest.take (lineLimit - 2)).takeWhile (· ≠ 10))
    let isGap (c : Char) : Bool := c = ' ' || c = '\t'
    let words := line.toList.dropWhile isGap
    let name := words.takeWhile (!isGap ·)
    let argument := ((words.drop name.length).dropWhile isGap).reverse.dropWhile isGap
    if name.isEmpty then none
    else some (String.ofList name,
      if argument.isEmpty then [] else [String.ofList argument.reverse])
  | _ => none

section

variable (tree : FileTree) (place : String → String)

/-- The start of the program at a path. An interpreter is given the path of its text before the
arguments; `levels` bounds the interpreters that are texts themselves. -/
def atPath : Nat → String → List String → Except SpawnError Launch
  | 0, _, _ => .error .tooManyLevels
  | levels + 1, path, arguments =>
    match utilityAt? (place path), tree.at? (place path) with
    | some utility, _ =>
      if path.toList.getLast? = some '/' then .error (.file .notDirectory)
      else .ok ⟨utility, path, arguments⟩
    | none, .error .notFound =>
      .error (.file (if isOuterDirectory (place path) then .denied else .notFound))
    | none, .error error => .error (.file error)
    | none, .ok .directory => .error (.file .denied)
    | none, .ok (.file content executable) =>
      if !executable then .error (.file .denied)
      else match interpreter? content with
        | some (interpreter, argument) =>
          atPath levels interpreter (argument ++ path :: arguments)
        | none => .error .badFormat

/-- The most interpreters that are texts themselves. -/
def levelLimit : Nat := 6

/-- A file of a directory; the empty directory is the current one. -/
def inDirectory (directory name : String) : String :=
  if directory.isEmpty then name else directory ++ "/" ++ name

/-- The start of a text without an interpreter, by the shell. -/
def ofText (path : String) (arguments : List String) : Launch :=
  ⟨"sh", "/bin/sh", path :: arguments⟩

/-- The start of the first program with a name in some directories. One that may not be run does not
end the search, but is the reason if nothing else is found. A text without an interpreter ends it,
or is run by the shell. -/
def search (runsText : Bool) (name : String) (arguments : List String) :
    SpawnError → List String → Except SpawnError Launch
  | reason, [] => .error reason
  | reason, directory :: rest =>
    let path := inDirectory directory name
    match atPath tree place levelLimit path arguments with
    | .ok launch => .ok { launch with name := if launch.name = path then name else launch.name }
    | .error .badFormat =>
      if runsText then .ok (ofText path arguments) else .error .badFormat
    | .error (.file .notFound) =>
      let reason := if reason = .file .denied then reason else .file .notFound
      search runsText name arguments reason rest
    | .error (.file .notDirectory) =>
      let reason := if reason = .file .denied then reason else .file .notDirectory
      search runsText name arguments reason rest
    | .error (.file .denied) => search runsText name arguments (.file .denied) rest
    | .error error => .error error

/-- The start of a program in a tree, by its name or path. -/
def find (path : String) (runsText : Bool) (name : String) (arguments : List String) :
    Except SpawnError Launch :=
  if name.toList.contains '/' then
    match atPath tree place levelLimit name arguments with
    | .error .badFormat => if runsText then .ok (ofText name arguments) else .error .badFormat
    | found => found
  else if name.isEmpty then .error (.file .notFound)
  else if longestName < name.length then .error (.file .nameTooLong)
  else search tree place runsText name arguments (.file .notFound) (Text.split ':' path)

/-- The path of the first file with a name in some directories. -/
def whereIs? (path name : String) : Option String :=
  if name.toList.contains '/' then
    if (utilityAt? (place name)).isSome || (tree.at? (place name)).toOption.isSome then some name
    else none
  else
    ((Text.split ':' path).map (inDirectory · name)).find? fun path =>
      (utilityAt? (place path)).isSome ||
        (match tree.at? (place path) with
        | .ok (.file _ executable) => executable
        | _ => false)

end

end Launch

end Shell

end NfvCatalog
