import NfvCatalog.Shell.Machine

/-! # Redirections

Leading a stream to a file, a text or another stream. Some paths stand for streams or for devices.
-/

namespace NfvCatalog.Shell

/-- Why a stream cannot be led to where it should. -/
inductive RedirectFault where
  | notOpened (path : String) (error : FileError)
  | notCreated (path : String) (error : FileError)
  | noDevice (path : String)
  | badStream (stream : Nat)
  | badNumber
deriving DecidableEq, Repr, Inhabited

namespace RedirectFault

/-- The wording of a fault. -/
def message : RedirectFault → String
  | .notOpened path error =>
    "cannot open " ++ path ++ ": " ++
      (if error = .notFound ∨ error = .notDirectory then "No such file" else error.reason)
  | .notCreated path error =>
    "cannot create " ++ path ++ ": " ++
      (if error = .notFound ∨ error = .notDirectory then "Directory nonexistent"
      else error.reason)
  | .noDevice path => "cannot create " ++ path ++ ": No such device or address"
  | .badStream stream => toString stream ++ ": " ++ FileError.badStream.reason
  | .badNumber => "Syntax error: Bad fd number"

end RedirectFault

namespace Redirection

/-- The stream that a path stands for. -/
def streamAt? (place : String) : Option Nat :=
  let numbered (lead : String) : Option Nat :=
    if Text.startsWith place lead then Digits.nat? 10 (place.toList.drop lead.length) else none
  match place with
  | "/dev/stdin" => some 0
  | "/dev/stdout" => some 1
  | "/dev/stderr" => some 2
  | _ => (numbered "/dev/fd/").orElse fun _ => numbered "/proc/self/fd/"

/-- Lead a stream to where another one leads. -/
def copy (m : Machine) (stream source : Nat) : Except RedirectFault Machine :=
  match (m.streams.find? (·.1 = source)).map Prod.snd with
  | some index => .ok (if stream = source then m else m.lead stream (some index))
  | none => .error (.badStream source)

/-- The tree in which a file is ready to be written, emptied if it was there. -/
def prepared (m : Machine) (direction : Direction) (path : String) : Except FileError FileTree :=
  let place := m.place path
  let isDenied := (Launch.utilityAt? place).isSome || Launch.isOuterDirectory place
  match m.tree.at? place with
  | .ok .directory => .error .isDirectory
  | .ok (.file ..) =>
    match direction with
    | .toFile =>
      if m.options.contains 'C' then .error .exists else m.tree.write place (.bytes [])
    | .overFile => m.tree.write place (.bytes [])
    | _ => .ok m.tree
  | .error .notFound =>
    if isDenied then .error .isDirectory
    else if path.toList.getLast? = some '/' then .error .isDirectory
    else m.tree.write place (.bytes [])
  | .error error => .error (if path.toList.getLast? = some '/' then .isDirectory else error)

/-- Lead a stream to what stands at a path. -/
def toPath (m : Machine) (stream : Nat) (direction : Direction) (path : String) :
    Except RedirectFault Machine :=
  let place := m.place path
  let reads := decide (direction = .fromFile) || decide (direction = .bothWays)
  let writes := decide (direction ≠ .fromFile)
  match streamAt? place with
  | some source =>
    match copy m stream source with
    | .ok m => .ok m
    | .error _ => .error (if writes then .notCreated path .notFound else .notOpened path .notFound)
  | none =>
    if place = "/dev/tty" then .error (.noDevice path)
    else if place = "/dev/full" then .ok (m.openChannel stream (.incoming [] false))
    else if reads && m.isZeros path then
      .ok (m.openChannel stream (.incoming Machine.manyZeros true))
    else if m.isDevice path then .ok (m.openChannel stream .nowhere)
    else if writes then
      match prepared m direction path with
      | .ok tree =>
        .ok ({ m with tree }.openChannel stream
          (.file place 0 (decide (direction = Direction.toEnd)) reads true))
      | .error error => .error (.notCreated path error)
    else
      match m.entryAt path with
      | .ok _ => .ok (m.openChannel stream (.file place 0 false true false))
      | .error error => .error (.notOpened path error)

/-- Lead a stream as a redirection says. -/
def apply (m : Machine) (stream : Nat) (direction : Direction) (target : String) :
    Except RedirectFault Machine :=
  match direction with
  | .fromText => .ok (m.openChannel stream (.incoming (Octets.bytes target) false))
  | .toStream =>
    match target.toList with
    | ['-'] => .ok (m.lead stream none)
    | [c] => if c.isDigit then copy m stream (c.toNat - '0'.toNat) else .error .badNumber
    | _ => .error .badNumber
  | _ => toPath m stream direction target

end Redirection

end NfvCatalog.Shell
