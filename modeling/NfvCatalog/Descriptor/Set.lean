import NfvCatalog.Document.Format
import NfvCatalog.Descriptor.NsdRecord
import NfvCatalog.Descriptor.Validation

/-! # Sets of descriptors

A document holds a catalog of VNFDs, a catalog of NSDs, or both. A set is what one or more documents
hold together.
-/

namespace NfvCatalog

/-- Which descriptor a document or package carries. -/
inductive DescriptorKind where
  | nsd
  | vnfd
deriving DecidableEq, Repr, Inhabited

namespace DescriptorKind

/-- The word for a kind. -/
def name : DescriptorKind → String
  | .nsd => "nsd"
  | .vnfd => "vnfd"

/-- The kind with a given name. -/
def ofName? (name : String) : Option DescriptorKind :=
  if name = "nsd" then some .nsd else if name = "vnfd" then some .vnfd else none

end DescriptorKind

/-- The keys that mark a descriptor document. -/
def catalogKeys : List String :=
  ["vnfd:vnfd-catalog", "vnfd-catalog", "nsd:nsd-catalog", "nsd-catalog"]

/-- Whether a document looks like descriptors. -/
def isCatalogDocument (value : Value) : Bool :=
  match value.mapping? with
  | some entries => catalogKeys.any entries.contains
  | none => false

/-- Why a text is not a descriptor document. -/
inductive DocumentError where
  | malformed (fault : Fault)
  | noCatalog
deriving DecidableEq, Repr, Inhabited

/-- The wording of a document error. -/
def DocumentError.message : DocumentError → String
  | .malformed fault => fault.message
  | .noCatalog => "document contains neither an nsd-catalog nor a vnfd-catalog"

/-- Network services and the functions they are made of. -/
structure DescriptorSet where
  nsds : List Nsd := []
  vnfds : List Vnfd := []
deriving DecidableEq, Repr, Inhabited

namespace DescriptorSet

/-! ## Documents -/

/-- The list inside a VNFD catalog. -/
def vnfdShape : RecordShape :=
  { names := ["vnfd"]
    aliases := [("vnfd:vnfd", "vnfd")]
    inner := [("vnfd", .items Vnfd.shape.extent)] }

/-- The list inside an NSD catalog. -/
def nsdShape : RecordShape :=
  { names := ["nsd"]
    aliases := [("nsd:nsd", "nsd")]
    inner := [("nsd", .items Nsd.shape.extent)] }

/-- The catalogs of a document. -/
def shape : RecordShape :=
  { names := ["vnfd:vnfd-catalog", "nsd:nsd-catalog"]
    aliases := [("vnfd-catalog", "vnfd:vnfd-catalog"), ("nsd-catalog", "nsd:nsd-catalog")]
    inner := [
      ("vnfd:vnfd-catalog", vnfdShape.extent),
      ("nsd:nsd-catalog", nsdShape.extent)] }

/-- Read a catalog of VNFDs. -/
def vnfdsOfNode (positional : Bool) (node : Node) : Except Fault (List Vnfd) := do
  let r ← Record.ofNode positional vnfdShape node
  r.list "vnfd" (Vnfd.ofNode positional)

/-- Read a catalog of NSDs. -/
def nsdsOfNode (positional : Bool) (node : Node) : Except Fault (List Nsd) := do
  let r ← Record.ofNode positional nsdShape node
  r.list "nsd" (Nsd.ofNode positional)

/-- The catalogs that a document has. -/
def catalogsOfNode (positional : Bool) (node : Node) :
    Except Fault (Option (List Vnfd) × Option (List Nsd)) := do
  let r ← Record.ofNode positional shape node
  return (← r.optional "vnfd:vnfd-catalog" (vnfdsOfNode positional),
    ← r.optional "nsd:nsd-catalog" (nsdsOfNode positional))

/-- The set of a document's descriptors. A document without any catalog is refused. -/
def ofNode (positional : Bool) (node : Node) : Except DocumentError DescriptorSet :=
  match catalogsOfNode positional node with
  | .error fault => .error (.malformed fault)
  | .ok (none, none) => .error .noCatalog
  | .ok (vnfds, nsds) => .ok ⟨nsds.getD [], vnfds.getD []⟩

/-- The document of a set: the VNFDs first, no catalog for an empty list. -/
def toValue (set : DescriptorSet) : Value :=
  let catalog (items : List Value) (inner : String) : Option Value :=
    if items.isEmpty then none else some (.ofFields [(inner, .sequence items)])
  Value.ofWritten [
    .optional "vnfd:vnfd-catalog" (catalog (set.vnfds.map Vnfd.toValue) "vnfd"),
    .optional "nsd:nsd-catalog" (catalog (set.nsds.map Nsd.toValue) "nsd")]

/-- Read a text. -/
def parse (format : Format) (text : String) : Except DocumentError DescriptorSet :=
  match (format.read text).bind (·.within shape.extent) with
  | .error fault => .error (.malformed fault)
  | .ok node => ofNode format.positional node

/-- Print a set as one document. -/
def print (format : Format) (set : DescriptorSet) : String := format.print set.toValue

/-! ## Looking up and merging -/

/-- Whether there are no descriptors. -/
def isEmpty (set : DescriptorSet) : Bool := set.nsds.isEmpty && set.vnfds.isEmpty

/-- The first VNFD with an id. -/
def vnfd? (set : DescriptorSet) (id : String) : Option Vnfd := set.vnfds.find? (·.id = id)

/-- The first NSD with an id. -/
def nsd? (set : DescriptorSet) (id : String) : Option Nsd := set.nsds.find? (·.id = id)

/-- Append the items whose id is not there yet, one after another. -/
def appendNew {α : Type} (id : α → String) : List α → List α → List α
  | present, [] => present
  | present, item :: rest =>
    if present.any (id · = id item) then appendNew id present rest
    else appendNew id (present ++ [item]) rest

/-- A set with the descriptors of another that it does not have yet. -/
def merge (set other : DescriptorSet) : DescriptorSet :=
  { nsds := appendNew Nsd.id set.nsds other.nsds
    vnfds := appendNew Vnfd.id set.vnfds other.vnfds }

/-- All issues: of each VNFD by itself, then of each NSD against the VNFDs of the set. -/
def validate (set : DescriptorSet) : List Issue :=
  set.vnfds.flatMap Vnfd.validate ++ set.nsds.flatMap (·.validate set.vnfds)

end DescriptorSet

/-- Print a VNFD as a catalog of its own. -/
def Vnfd.print (format : Format) (vnfd : Vnfd) : String :=
  DescriptorSet.print format { vnfds := [vnfd] }

/-- Print an NSD as a catalog of its own. -/
def Nsd.print (format : Format) (nsd : Nsd) : String :=
  DescriptorSet.print format { nsds := [nsd] }

end NfvCatalog
