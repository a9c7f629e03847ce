import NfvCatalog.Document.Node

/-! # Reading nodes

How much of a node a reader looks at, and what it reads.
-/

/-! ## Extents of reading

Whoever reads a document looks at some of it: records have known fields, and the others are passed
over. An extent says which parts those are. References in them are followed, and their number is
limited, so that a short text cannot stand for a huge document.
-/

namespace NfvCatalog

/-- What is read of a node: all of it, the items of a list, the values of a mapping, or the known
fields of a record. A field that is not among the inner ones is read as a whole. -/
inductive Extent where
  | whole
  | items (item : Extent)
  | values (value : Extent)
  | record (names : List String) (aliases : List (String × String))
      (inner : List (String × Extent))
deriving Inhabited

/-- The names of a record's fields in order, the other names that some of them have, and the extents
of those that hold records themselves. -/
structure RecordShape where
  names : List String
  aliases : List (String × String) := []
  inner : List (String × Extent) := []
deriving Inhabited

namespace RecordShape

/-- The field that a written name stands for. -/
def field? (shape : RecordShape) (written : String) : Option String :=
  if shape.names.contains written then some written
  else (shape.aliases.find? (·.1 = written)).map Prod.snd

/-- The field that a key stands for: by its text, or by its place. -/
def keyField? (shape : RecordShape) (key : Node) : Except Fault (Option String) :=
  match key.untagged with
  | .number (.int n) =>
    if 0 ≤ n then .ok shape.names[n.toNat]? else .error (.expected "a field name")
  | other => do return shape.field? (← other.asText)

/-- What is read of a record. -/
def extent (shape : RecordShape) : Extent := .record shape.names shape.aliases shape.inner

end RecordShape

namespace Extent

/-- What is read of an item of a list. -/
def ofItem : Extent → Extent
  | .items item => item
  | _ => .whole

/-- What is read of the value under a key, if it is read. -/
def ofKey? (extent : Extent) (key : Node) : Option Extent :=
  match extent with
  | .whole | .items _ => some .whole
  | .values value => some value
  | .record names aliases inner =>
    match RecordShape.keyField? ⟨names, aliases, inner⟩ key with
    | .ok (some name) => some (((inner.find? (·.1 = name)).map Prod.snd).getD .whole)
    | _ => none

end Extent

namespace Node

mutual

/-- The number of references followed so far and in what is read of a node. -/
def countReferences (extent : Extent) : Node → Nat → Except Fault Nat
  | .sequence items, count => countInItems extent.ofItem items count
  | .mapping entries, count => countInEntries extent entries count
  | .tagged _ node, count => node.countReferences extent count
  | .shared limit content, count =>
    if count < limit then (content ()).countReferences extent (count + 1)
    else .error (.other "repetition limit exceeded")
  | _, count => .ok count

/-- The number of references followed so far and in a list of nodes. -/
def countInItems (extent : Extent) : List Node → Nat → Except Fault Nat
  | [], count => .ok count
  | item :: rest, count => do countInItems extent rest (← item.countReferences extent count)

/-- The number of references followed so far and in a list of entries. All keys are read. -/
def countInEntries (extent : Extent) : List (Node × Node) → Nat → Except Fault Nat
  | [], count => .ok count
  | (key, value) :: rest, count => do
    let count ← key.countReferences .whole count
    match extent.ofKey? key with
    | some inner => countInEntries extent rest (← value.countReferences inner count)
    | none => countInEntries extent rest count

end

/-- A node whose references within an extent can be followed. -/
def within (extent : Extent) (node : Node) : Except Fault Node := do
  let _ ← node.countReferences extent 0
  return node

/-- A node all of whose references can be followed. -/
def whole (node : Node) : Except Fault Node := node.within .whole

end Node

end NfvCatalog

/-! ## Values of nodes

A node is read as a value, whatever kind it has, or as one of a wanted kind. Where nothing tells
which kind is wanted, an unquoted scalar is what it spells.
-/

namespace NfvCatalog.Node

/-! ### Tagged scalars -/

/-- The value of a scalar below a tag that is not an application's own. -/
def resolveTagged (tag : Tag) (source : String) : Except Fault Value :=
  match tag with
  | .core .bool =>
    match Scalar.bool? source with
    | some b => .ok (.bool b)
    | none => .error (.expected "a boolean")
  | .core .int =>
    match Scalar.whole source with
    | .fits n => .ok (.number (.int n))
    | _ => .error (.expected "an integer")
  | .core .float =>
    match Scalar.float? source with
    | some x => .ok (.number (.float x))
    | none => .error (.expected "a float")
  | .core .null => if Scalar.isNullWord source then .ok .null else .error (.expected "null")
  | _ => .ok (.string source)

/-! ### Reading a node without knowing what is wanted -/

mutual

/-- The value of a node. Keys of a mapping are distinct. -/
def toValue : Node → Except Fault Value
  | .plain source => Scalar.resolve source
  | .null => .ok .null
  | .bool b => .ok (.bool b)
  | .number n => .ok (.number n)
  | .text s | .literal s => .ok (.string s)
  | .sequence items => do return .sequence (← toValues items)
  | .mapping entries => do return .mapping (← toValueEntries [] entries)
  | .tagged (.own name) node => do return .tagged name (← toValue node)
  | .tagged .nameless node => toValue node
  | .tagged tag node =>
    match node with
    | .plain source | .text source | .literal source => resolveTagged tag source
    | other => toValue other
  | .shared _ content => toValue (content ())
  | .unreadable reason => .error reason

/-- The values of a list of nodes. -/
def toValues : List Node → Except Fault (List Value)
  | [] => .ok []
  | item :: rest => do return (← toValue item) :: (← toValues rest)

/-- The entries of a mapping after those already read. -/
def toValueEntries (before : Value.Entries) : List (Node × Node) → Except Fault Value.Entries
  | [] => .ok []
  | (key, value) :: rest => do
    let key ← toValue key
    if before.any (·.1.alike key) then throw (.duplicateKey "")
    let value ← toValue value
    return (key, value) :: (← toValueEntries ((key, value) :: before) rest)

end

/-- Read a node as a value, whatever kind it has. -/
def resolve (node : Node) : Except Fault Value := do toValue (← node.whole)

/-! ### Fixing the kind of every scalar -/

/-- The node of a scalar value. -/
def ofScalar : Value → Node
  | .null => .null
  | .bool b => .bool b
  | .number n => .number n
  | .string s => .text s
  | _ => .null

mutual

/-- The node with the kind of every unquoted scalar fixed. -/
def withKinds : Node → Except Fault Node
  | .plain source => do return ofScalar (← Scalar.resolve source)
  | .literal s => .ok (.text s)
  | .sequence items => do return .sequence (← itemsWithKinds items)
  | .mapping entries => do return .mapping (← entriesWithKinds entries)
  | .tagged (.own _) _ => .error (.other "a tag is not allowed here")
  | .tagged .nameless node => withKinds node
  | .tagged tag node =>
    match node with
    | .plain source | .text source | .literal source => do
      return ofScalar (← resolveTagged tag source)
    | other => withKinds other
  | .shared _ content => withKinds (content ())
  | .unreadable reason => .error reason
  | node => .ok node

/-- Each item with its kind fixed. -/
def itemsWithKinds : List Node → Except Fault (List Node)
  | [] => .ok []
  | item :: rest => do return (← withKinds item) :: (← itemsWithKinds rest)

/-- Each entry with its kinds fixed. -/
def entriesWithKinds : List (Node × Node) → Except Fault (List (Node × Node))
  | [] => .ok []
  | (key, value) :: rest => do
    return (← withKinds key, ← withKinds value) :: (← entriesWithKinds rest)

end

/-- The same document with the kind of every unquoted scalar fixed. An application's own tags have
no place in it. -/
def typed (node : Node) : Except Fault Node := do withKinds (← node.whole)

/-! ### Reading a node of a wanted kind -/

/-- The source of a scalar that may be of a kind: an unquoted one, or a literal block with the core
tag of the kind. -/
def source? (kind : CoreKind) (node : Node) : Option String :=
  match node.settled with
  | .plain source => some source
  | .tagged tag inner =>
    match inner with
    | .plain source => some source
    | .literal source => if tag = .core kind then some source else none
    | _ => none
  | _ => none

/-- Read as a truth value. -/
def asBool (node : Node) : Except Fault Bool :=
  match node.untagged, node.source? .bool with
  | .bool b, _ => .ok b
  | _, some source =>
    match Scalar.bool? source with
    | some b => .ok b
    | none => .error (.expected "a boolean")
  | _, none => .error (.expected "a boolean")

/-- Read as a natural number below a bound. -/
def asNatural (bound : Nat) (node : Node) : Except Fault Nat :=
  let wanted := Fault.expected s!"a natural number below {bound}"
  match node.untagged, node.source? .int with
  | .number (.int n), _ => if 0 ≤ n ∧ n < bound then .ok n.toNat else .error wanted
  | _, some source =>
    match Scalar.natural? source with
    | some n => if n < bound then .ok n else .error wanted
    | none => .error wanted
  | _, none => .error wanted

/-- Read as a number of 16 bits. -/
def asUInt16 (node : Node) : Except Fault UInt16 := do
  return UInt16.ofNat (← node.asNatural UInt16.size)

/-- Read as a number of 32 bits. -/
def asUInt32 (node : Node) : Except Fault UInt32 := do
  return UInt32.ofNat (← node.asNatural UInt32.size)

/-- Read as a number of 64 bits. -/
def asUInt64 (node : Node) : Except Fault UInt64 := do
  return UInt64.ofNat (← node.asNatural UInt64.size)

/-- Read as a whole number of 64 bits with a sign. -/
def asInt64 (node : Node) : Except Fault Int :=
  let fits (n : Int) : Except Fault Int :=
    if Digits.fitsSigned n then .ok n else .error (.expected "an integer of 64 bits")
  match node.untagged, node.source? .int with
  | .number (.int n), _ => fits n
  | _, some source =>
    match Scalar.whole source with
    | .fits n => fits n
    | _ => .error (.expected "an integer of 64 bits")
  | _, none => .error (.expected "an integer of 64 bits")

/-- Read as a list. The empty scalar is an empty list. -/
def asItems (node : Node) : Except Fault (List Node) :=
  match node.untagged with
  | .sequence items => .ok items
  | .plain "" => .ok []
  | _ => .error (.expected "a sequence")

/-- Read as a mapping. The empty scalar is an empty mapping. -/
def asEntries (node : Node) : Except Fault (List (Node × Node)) :=
  match node.untagged with
  | .mapping entries => .ok entries
  | .plain "" => .ok []
  | _ => .error (.expected "a mapping")

/-- Read as a mapping of values with distinct keys. -/
def asValueEntries (node : Node) : Except Fault Value.Entries := do
  toValueEntries [] (← (← node.whole).asEntries)

/-- Whether an optional field is left unset. Only an unquoted scalar, or the null of a typed
notation, unsets it. -/
def isUnset (node : Node) : Except Fault Bool :=
  match node.settled with
  | .null => .ok true
  | .plain source => .ok (Scalar.isUnset source)
  | .tagged (.core .null) (.plain source) =>
    if Scalar.isNullWord source then .ok true else .error (.expected "null")
  | _ => .ok false

/-! ### Opaque values

Opaque values are carried through untouched apart from the order of their keys: they have text keys
only, in sorted order, the last of equal keys counts, and numbers without a JSON form are null.
-/

/-- A scalar value as an opaque one. -/
def opaqueScalar : Value → Value
  | .number (.float x) => if x.isFinite then .number (.float x) else .null
  | value => value

mutual

/-- The opaque value of a node. -/
def toOpaque : Node → Except Fault Value
  | .plain source => do return opaqueScalar (← Scalar.resolve source)
  | .null => .ok .null
  | .bool b => .ok (.bool b)
  | .number n => .ok (opaqueScalar (.number n))
  | .text s | .literal s => .ok (.string s)
  | .sequence items => do return .sequence (← toOpaqueItems items)
  | .mapping entries => do return .mapping (← toOpaqueEntries [] entries)
  | .tagged (.own _) _ => .error (.other "a tag is not allowed here")
  | .tagged .nameless node => toOpaque node
  | .tagged tag node =>
    match node with
    | .plain source | .text source | .literal source => do
      return opaqueScalar (← resolveTagged tag source)
    | other => toOpaque other
  | .shared _ content => toOpaque (content ())
  | .unreadable reason => .error reason

/-- The opaque values of a list of nodes. -/
def toOpaqueItems : List Node → Except Fault (List Value)
  | [] => .ok []
  | item :: rest => do return (← toOpaque item) :: (← toOpaqueItems rest)

/-- The entries of a mapping, put into a sorted list of those already read. -/
def toOpaqueEntries (before : Value.Entries) : List (Node × Node) → Except Fault Value.Entries
  | [] => .ok before
  | (key, value) :: rest => do
    let key ← key.asText
    let value ← toOpaque value
    toOpaqueEntries (before.insertSorted key value) rest

end

/-- Read as an opaque value. -/
def asOpaque (node : Node) : Except Fault Value := do toOpaque (← node.whole)

end NfvCatalog.Node
