import NfvCatalog.Tosca.Size
import NfvCatalog.Translation.Error

/-! # Properties of entities

Readers of the properties that several resources share. A property that cannot be used is an error
that names the entity and the property.
-/

namespace NfvCatalog.Translation

open Tosca

/-- The name that properties give, or else that of the entity. -/
def nameOf (properties : Value.Entries) (entity : String) : String :=
  (properties.text? "name").getD entity

/-- The description that properties give, or else that of the node. -/
def descriptionOf (node : NodeTemplate) : Option String :=
  (node.properties.text? "description").or node.description

/-- An optional number of at most 32 bits. -/
def wholeProperty? (properties : Value.Entries) (entity key : String) :
    Except TranslationError (Option UInt32) :=
  match properties.get? key with
  | none | some .null => .ok none
  | some value =>
    match value.asWord? with
    | none => .error (.invalidProperty entity key .notInteger)
    | some word =>
      if word.toNat < UInt32.size then .ok (some word.toUInt32)
      else .error (.invalidProperty entity key .outOfRange)

/-- An optional port number. -/
def portProperty? (properties : Value.Entries) (entity key : String) :
    Except TranslationError (Option UInt16) :=
  match properties.get? key with
  | none => .ok none
  | some value =>
    match value.asWord? with
    | some word =>
      if word.toNat < UInt16.size then .ok (some word.toUInt16)
      else .error (.invalidProperty entity key .notPort)
    | none => .error (.invalidProperty entity key .notPort)

/-- A count of at most 32 bits. -/
def countOf (value : Value) (entity key : String) : Except TranslationError UInt32 :=
  match value.asWord? with
  | some word =>
    if word.toNat < UInt32.size then .ok word.toUInt32
    else .error (.invalidProperty entity key .notPositive)
  | none => .error (.invalidProperty entity key .notPositive)

/-- A size in a unit, rounded up. A bare number is in that unit already. -/
def sizeIn (value : Value) (unit : SizeUnit) (entity key : String) :
    Except TranslationError UInt64 :=
  match parseSizeValue value unit with
  | .ok bytes => .ok (bytesTo bytes unit)
  | .error error => .error (.invalidProperty entity key (.notSize error))

end NfvCatalog.Translation
