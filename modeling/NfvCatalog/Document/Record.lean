import NfvCatalog.Document.NodeReader

/-! # Records

A record is a mapping with known field names. Unknown fields are ignored and a known field may be
given once, under its name or under one of its aliases. Where a notation allows it, a record may
also be the bare sequence of its fields.
-/

namespace NfvCatalog

/-- The fields of a record that were given, under their own names. -/
structure Record where
  fields : List (String × Node)
deriving Inhabited

namespace Record

/-- The node given for a field. -/
def get? (record : Record) (name : String) : Option Node :=
  (record.fields.find? (·.1 = name)).map Prod.snd

/-- The known fields among the entries of a mapping, none of them given twice. -/
def ofEntries (shape : RecordShape) : List (Node × Node) → Except Fault Record
  | [] => .ok ⟨[]⟩
  | (key, value) :: rest => do
    let field ← shape.keyField? key
    let others ← ofEntries shape rest
    match field with
    | none => return others
    | some name =>
      if (others.get? name).isSome then throw (.duplicateField name)
      return ⟨(name, value) :: others.fields⟩

/-- The fields of a sequence, by their places. -/
def ofItems (shape : RecordShape) (items : List Node) : Except Fault Record :=
  if shape.names.length < items.length then .error .tooManyItems
  else .ok ⟨shape.names.zip items⟩

/-- Read a node as a record. -/
def ofNode (positional : Bool) (shape : RecordShape) (node : Node) : Except Fault Record :=
  match node.untagged with
  | .sequence items =>
    if positional then ofItems shape items else .error (.expected "a mapping")
  | other => do ofEntries shape (← other.asEntries)

/-- A field that must be given. -/
def required {α : Type} (record : Record) (name : String) (read : Node → Except Fault α) :
    Except Fault α :=
  match record.get? name with
  | some node => read node
  | none => .error (.missingField name)

/-- A field that has a default when it is not given. -/
def withDefault {α : Type} (record : Record) (name : String) (default : α)
    (read : Node → Except Fault α) : Except Fault α :=
  match record.get? name with
  | some node => read node
  | none => .ok default

/-- A field that may be left unset. -/
def optional {α : Type} (record : Record) (name : String) (read : Node → Except Fault α) :
    Except Fault (Option α) :=
  match record.get? name with
  | none => .ok none
  | some node => do
    if ← node.isUnset then return none
    return some (← read node)

/-- Read every item of a list. -/
def readItems {α : Type} (read : Node → Except Fault α) : List Node → Except Fault (List α)
  | [] => .ok []
  | item :: rest => do return (← read item) :: (← readItems read rest)

/-- A field that holds a list, empty when it is not given. -/
def list {α : Type} (record : Record) (name : String) (read : Node → Except Fault α) :
    Except Fault (List α) :=
  record.withDefault name [] fun node => do readItems read (← node.asItems)

end Record

/-! ## Writing records -/

/-- A field of a record to be written; without a value it is left out. -/
structure WrittenField where
  name : String
  value : Option Value
deriving DecidableEq, Repr

namespace WrittenField

/-- A field that may have no value. -/
def optional (name : String) (value : Option Value) : WrittenField := ⟨name, value⟩

/-- A text. -/
def text (name value : String) : WrittenField := ⟨name, some (.string value)⟩

/-- An optional text. -/
def optionalText (name : String) (value : Option String) : WrittenField :=
  ⟨name, value.map .string⟩

/-- A natural number. -/
def natural (name : String) (value : Nat) : WrittenField := ⟨name, some (.ofNat value)⟩

/-- An optional natural number. -/
def optionalNatural (name : String) (value : Option Nat) : WrittenField :=
  ⟨name, value.map .ofNat⟩

/-- An optional truth value. -/
def optionalBool (name : String) (value : Option Bool) : WrittenField := ⟨name, value.map .bool⟩

/-- A list, left out when it is empty. -/
def list {α : Type} (name : String) (write : α → Value) (items : List α) : WrittenField :=
  ⟨name, if items.isEmpty then none else some (.sequence (items.map write))⟩

end WrittenField

/-- The mapping of the fields that have a value. -/
def Value.ofWritten (fields : List WrittenField) : Value :=
  .ofFields (fields.filterMap fun field => field.value.map (field.name, ·))

end NfvCatalog
