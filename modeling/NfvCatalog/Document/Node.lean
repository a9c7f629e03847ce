import NfvCatalog.Document.Scalar
import NfvCatalog.Text.Utf8

/-! # Nodes

A document is read into nodes, some of which carry tags.
-/

/-! ## Tags

A tag says what a part of a document is. It is written in bytes, which need not spell a text: an
application's own tag starts with an exclamation mark, and those of the core schema name a kind of
scalar.
-/

namespace NfvCatalog

/-- The kinds of scalars in the core schema. -/
inductive CoreKind where
  | bool
  | int
  | float
  | null
deriving DecidableEq, Repr, Inhabited

namespace CoreKind

/-- The name of a kind. -/
def name : CoreKind → String
  | .bool => "bool"
  | .int => "int"
  | .float => "float"
  | .null => "null"

/-- All kinds. -/
def all : List CoreKind := [.bool, .int, .float, .null]

end CoreKind

/-- A tag. An application's own one has no name if its bytes spell no text. -/
inductive Tag where
  | own (name : String)
  | nameless
  | core (kind : CoreKind)
  | foreign
deriving DecidableEq, Repr, Inhabited

namespace Tag

/-- What the tags of the core schema start with. -/
def coreStart : List UInt8 := Utf8.encode "tag:yaml.org,2002:"

/-- The byte of an exclamation mark. -/
def mark : UInt8 := 0x21

/-- Bytes without an exclamation mark in front, unless that is all. -/
def withoutMark : List UInt8 → List UInt8
  | first :: second :: rest => if first = mark then second :: rest else first :: second :: rest
  | bytes => bytes

/-- The tag that bytes spell. The name of an application's own tag is what follows its exclamation
mark, or the mark itself when it stands alone; a second mark does not count. -/
def ofBytes (bytes : List UInt8) : Tag :=
  if bytes.head? = some mark then
    match Utf8.decode? (withoutMark (withoutMark bytes)) with
    | some name => .own name
    | none => .nameless
  else match CoreKind.all.find? fun kind => coreStart ++ Utf8.encode kind.name = bytes with
    | some kind => .core kind
    | none => .foreign

end Tag

end NfvCatalog

/-! ## Documents as they are read

A node is a document in which the kind of an unquoted scalar is still open: whoever reads it decides
whether `1.10` is a version text or a number. Notations without unquoted scalars use the typed
constructors only, so one set of readers serves all notations. A part that nobody reads may be
unreadable, and content that is referred to from several places is put in place only when it is
read.
-/

namespace NfvCatalog

/-- A document in which unquoted scalars keep their source text. -/
inductive Node where
  | plain (source : String)
  | null
  | bool (value : Bool)
  | number (value : Number)
  | text (value : String)
  /-- A text written as a literal block. A core tag makes it a scalar of that kind. -/
  | literal (value : String)
  | sequence (items : List Node)
  | mapping (entries : List (Node × Node))
  | tagged (tag : Tag) (node : Node)
  /-- A reference to content written elsewhere. At most `limit` of them are followed at once. -/
  | shared (limit : Nat) (content : Unit → Node)
  /-- A part whose reading fails. -/
  | unreadable (reason : Fault)
deriving Inhabited

namespace Node

/-! ### Values as nodes -/

mutual

/-- The node of a value: every scalar has its kind. -/
def ofValue : Value → Node
  | .null => .null
  | .bool b => .bool b
  | .number n => .number n
  | .string s => .text s
  | .sequence items => .sequence (ofItems items)
  | .mapping entries => .mapping (ofEntries entries)
  | .tagged tag value => .tagged (.own tag) (ofValue value)

/-- The nodes of a list of values. -/
def ofItems : List Value → List Node
  | [] => []
  | item :: rest => ofValue item :: ofItems rest

/-- The nodes of a list of entries. -/
def ofEntries : List (Value × Value) → List (Node × Node)
  | [] => []
  | (key, value) :: rest => (ofValue key, ofValue value) :: ofEntries rest

end

/-! ### Below references and tags -/

/-- What a node refers to, if it is a reference. -/
def settled : Node → Node
  | .shared _ content => (content ()).settled
  | node => node

/-- The node below its tags. -/
def untagged : Node → Node
  | .tagged _ node => node.untagged
  | .shared _ content => (content ()).untagged
  | node => node

/-- Read as text: the source of any unquoted scalar, whatever else it might spell. -/
def asText (node : Node) : Except Fault String :=
  match node.untagged with
  | .plain source => .ok source
  | .text s | .literal s => .ok s
  | _ => .error (.expected "a string")

end Node

end NfvCatalog
