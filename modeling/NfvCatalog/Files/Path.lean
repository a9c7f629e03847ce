import NfvCatalog.Text.Blank

/-! # Paths

A path is a text in which slashes separate components. Empty components, and single dots other than
a leading one, do not count.
-/

namespace NfvCatalog.Path

/-- A component of a path. -/
inductive Component where
  | root
  | current
  | parent
  | normal (name : String)
deriving DecidableEq, Repr, Inhabited

/-- The component that a piece between slashes stands for; a dot stands for none. -/
def piece? (piece : String) : Option Component :=
  if piece = "" ∨ piece = "." then none
  else if piece = ".." then some .parent
  else some (.normal piece)

/-- The components of a path. -/
def components (path : String) : List Component :=
  let pieces := Text.split '/' path
  let body := pieces.filterMap piece?
  match path.toList with
  | '/' :: _ => .root :: body
  | _ => if pieces.head? = some "." then .current :: body else body

/-- The rank of a component's kind: the root first, names last. -/
def Component.rank : Component → Nat
  | .root => 0
  | .current => 1
  | .parent => 2
  | .normal _ => 3

/-- Whether a component comes strictly before another: by kind, and names by their text. -/
def Component.lt : Component → Component → Bool
  | .normal left, .normal right => decide (left < right)
  | left, right => left.rank < right.rank

/-- Order of component lists: the first difference decides, and a beginning comes before its
continuations. -/
def compareComponents : List Component → List Component → Ordering
  | [], [] => .eq
  | [], _ :: _ => .lt
  | _ :: _, [] => .gt
  | left :: lefts, right :: rights =>
    if left.lt right then .lt
    else if right.lt left then .gt
    else compareComponents lefts rights

/-- Order of paths, component by component. -/
def compare (left right : String) : Ordering :=
  compareComponents (components left) (components right)

/-- Whether a path starts at the root. -/
def isAbsolute (path : String) : Bool := path.toList.head? = some '/'

/-- The name that a path ends in. -/
def fileName? (path : String) : Option String :=
  match (components path).getLast? with
  | some (.normal name) => some name
  | _ => none

/-- A name cut at its last dot, which is not its first character. -/
def cutExtension (name : String) : String × Option String :=
  let tail := name.toList.reverse.takeWhile (· ≠ '.')
  let head := name.toList.take (name.toList.length - tail.length)
  if head.length ≤ 1 then (name, none)
  else (String.ofList head.dropLast, some (String.ofList tail.reverse))

/-- The extension of the name that a path ends in. -/
def extension? (path : String) : Option String :=
  match fileName? path with
  | some name => (cutExtension name).2
  | none => none

/-- A path continued by another; an absolute one starts anew. -/
def join (base rest : String) : String :=
  if isAbsolute rest then rest
  else if base.isEmpty then rest
  else if base.toList.getLast? = some '/' then base ++ rest
  else base ++ "/" ++ rest

/-- The text of a list of components. -/
def ofComponents (parts : List Component) : String :=
  let name : Component → String
    | .root => ""
    | .current => "."
    | .parent => ".."
    | .normal name => name
  match parts with
  | [.root] => "/"
  | _ => Text.join "/" (parts.map name)

/-- The path without its last component; nothing for a root or an empty path. -/
def parent? (path : String) : Option String :=
  match components path with
  | [] => none
  | [.root] => none
  | parts => some (ofComponents parts.dropLast)

end NfvCatalog.Path
