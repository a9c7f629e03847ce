import NfvCatalog.Document.Json
import NfvCatalog.Tosca.Template

/-! # Resources and errors of translations

What the entities of a template stand for, and why a translation fails.
-/

/-! ## Resources of templates

The entities of a template that have a meaning for descriptors fall into resources. Each resource
owns some types of one table, and belongs to a phase of the translation: an entity may refer to
entities of earlier phases. An entity of a derived type belongs to the resource of its nearest
ancestor that has one.
-/

namespace NfvCatalog.Translation

open Tosca

/-- The phases of the translation. -/
inductive Phase where
  | virtualLink
  | vdu
  | vnf
  | connectionPoint
  | forwardingPath
  | forwardingGraph
  | policy
deriving DecidableEq, Repr, Inhabited

namespace Phase

/-- What a phase is about. -/
def label : Phase → String
  | .virtualLink => "virtual link"
  | .vdu => "VDU"
  | .vnf => "VNF"
  | .connectionPoint => "connection point"
  | .forwardingPath => "forwarding path"
  | .forwardingGraph => "forwarding graph"
  | .policy => "policy"

/-- The place of a phase in the translation. -/
def rank : Phase → Nat
  | .virtualLink => 0
  | .vdu => 1
  | .vnf => 2
  | .connectionPoint => 3
  | .forwardingPath => 4
  | .forwardingGraph => 5
  | .policy => 6

end Phase

/-- The kinds of entities that translation knows. -/
inductive Resource where
  | virtualLink
  | vdu
  | vnf
  | connectionPoint
  | forwardingPath
  | forwardingGraph
  | scalingGroup
  | placement
  | initialConfig
deriving DecidableEq, Repr, Inhabited

namespace Resource

/-- All resources. -/
def all : List Resource :=
  [.virtualLink, .vdu, .vnf, .connectionPoint, .forwardingPath, .forwardingGraph, .scalingGroup,
    .placement, .initialConfig]

/-- The table that the types of a resource live in. -/
def table : Resource → TypeTable
  | .virtualLink | .vdu | .vnf | .connectionPoint | .forwardingPath => .node
  | .forwardingGraph => .group
  | .scalingGroup | .placement | .initialConfig => .policy

/-- The types of a resource. -/
def typeNames : Resource → List String
  | .virtualLink =>
    ["tosca.nodes.nfv.VL", "tosca.nodes.nfv.VL.ELAN", "tosca.nodes.nfv.VL.ELine",
      "tosca.nodes.nfv.riftio.ELAN"]
  | .vdu => ["tosca.nodes.nfv.VDU", "tosca.nodes.Compute"]
  | .vnf => ["tosca.nodes.nfv.VNF"]
  | .connectionPoint => ["tosca.nodes.nfv.CP", "tosca.nodes.nfv.riftio.CP1"]
  | .forwardingPath => ["tosca.nodes.nfv.FP"]
  | .forwardingGraph => ["tosca.groups.nfv.VNFFG"]
  | .scalingGroup => ["tosca.policies.riftio.ScalingGroup"]
  | .placement => ["tosca.policies.nfv.riftio.placement"]
  | .initialConfig => ["tosca.policies.riftio.InitialConfigPrimitive"]

/-- The phase of a resource. -/
def phase : Resource → Phase
  | .virtualLink => .virtualLink
  | .vdu => .vdu
  | .vnf => .vnf
  | .connectionPoint => .connectionPoint
  | .forwardingPath => .forwardingPath
  | .forwardingGraph => .forwardingGraph
  | .scalingGroup | .placement | .initialConfig => .policy

/-- What becomes of a resource. -/
def description : Resource → String
  | .virtualLink => "virtual link to NSD vld"
  | .vdu => "VDU to VNFD vdu"
  | .vnf => "VNF to VNFD and constituent"
  | .connectionPoint => "connection point to VNFD connection-point"
  | .forwardingPath => "forwarding path to rendered service path"
  | .forwardingGraph => "VNFFG group to vnffgd"
  | .scalingGroup => "scaling policy to scaling-group-descriptor"
  | .placement => "placement policy to placement-groups"
  | .initialConfig => "initial config primitive"

/-- The resource that owns a type. -/
def ofType? (table : TypeTable) (name : String) : Option Resource :=
  all.find? fun resource => resource.table = table && resource.typeNames.contains name

/-- The types of a table that some resource owns, sorted. -/
def ownedTypes (table : TypeTable) : List String :=
  ((all.filter (·.table = table)).flatMap typeNames).mergeSort Text.le

end Resource

/-- Who handles the types of each table. -/
structure Registry (α : Type) where
  handler? : TypeTable → String → Option α

namespace Registry

variable {α : Type}

/-- The registry without handlers. -/
def empty : Registry α := ⟨fun _ _ => none⟩

/-- Give some types of a table to a handler, whoever handled them before. -/
def register (registry : Registry α) (table : TypeTable) (names : List String) (handler : α) :
    Registry α :=
  ⟨fun other name =>
    if other = table ∧ name ∈ names then some handler else registry.handler? other name⟩

/-- The handler of the first type with one among a type and its ancestors. -/
def resolve (registry : Registry α) (template : Template) (table : TypeTable) (name : String) :
    Except TemplateError (Option α) := do
  return (← template.typeChain table name).findSome? (registry.handler? table)

end Registry

namespace Resource

/-- Register resources one after another. -/
def registerAll (resources : List Resource) : Registry Resource :=
  resources.foldl (fun registry resource =>
    registry.register resource.table resource.typeNames resource) .empty

/-- Every type is handled by the resource that owns it. -/
def registry : Registry Resource := ⟨ofType?⟩

/-- The resource of the first owned type among a type and its ancestors. -/
def resolve (template : Template) (table : TypeTable) (name : String) :
    Except TemplateError (Option Resource) :=
  registry.resolve template table name

end Resource

end NfvCatalog.Translation

/-! ## Errors

Why a translation fails.
-/

namespace NfvCatalog.Translation

open Tosca

/-- What is wrong with a property. -/
inductive PropertyFault where
  | notInteger
  | outOfRange
  | notPositive
  | notPort
  | notSize (error : TemplateError)
  | notOpaque (fault : OpaqueFault)
  | foreignVdu (node : String)
  | countNotInteger
  | actionsNotPairs
  | missing
deriving DecidableEq, Repr, Inhabited

/-- The wording of a property's fault. -/
def PropertyFault.message : PropertyFault → String
  | .notInteger => "expected an integer"
  | .outOfRange => "number too large to fit in target type"
  | .notPositive => "expected a positive integer"
  | .notPort => "expected a port number"
  | .notSize error => error.message
  | .notOpaque fault => fault.message
  | .foreignVdu node => "VDU '" ++ node ++ "' is not one of this VNF's vdus"
  | .countNotInteger => "count must be an integer"
  | .actionsNotPairs => "expected trigger: primitive pairs"
  | .missing => "required"

/-- What keeps descriptors from being written as a template. -/
inductive SetFault where
  | empty
  | severalNsds (count : Nat)
  | vnfdNotSupplied (index : UInt32) (vnfd : String)
deriving DecidableEq, Repr, Inhabited

/-- The wording of a set's fault. -/
def SetFault.message : SetFault → String
  | .empty => "no descriptors supplied"
  | .severalNsds count => s!"expected one NSD, found {count}"
  | .vnfdNotSupplied index vnfd =>
    s!"member {index} references VNFD '" ++ vnfd ++ "' which was not supplied"

/-- Why a translation fails. -/
inductive TranslationError where
  | template (error : TemplateError)
  | unsupportedType (name typeName : String)
  | danglingReference (node requirement target : String)
  | wrongTarget (node requirement target : String) (expected : Phase)
  | unboundPoint (node : String)
  | orphanVdu (node : String)
  | claimedTwice (vdu first second : String)
  | duplicateIndex (index : UInt32)
  | invalidProperty (name property : String) (fault : PropertyFault)
  | entityMismatch (name : String)
  | invalidInput (fault : SetFault)
deriving DecidableEq, Repr, Inhabited

/-- The wording of a translation error. -/
def TranslationError.message : TranslationError → String
  | .template error => error.message
  | .unsupportedType name typeName =>
    "'" ++ name ++ "' has unsupported type '" ++ typeName ++ "'"
  | .danglingReference node requirement target =>
    "'" ++ node ++ "' requirement '" ++ requirement ++ "' targets unknown node '" ++ target ++ "'"
  | .wrongTarget node requirement target expected =>
    "'" ++ node ++ "' requirement '" ++ requirement ++ "' must target a " ++ expected.label ++
      ", '" ++ target ++ "' is not one"
  | .unboundPoint node =>
    "connection point '" ++ node ++ "' has no virtualBinding requirement"
  | .orphanVdu node => "VDU '" ++ node ++ "' is not referenced by any VNF"
  | .claimedTwice vdu first second =>
    "VDU '" ++ vdu ++ "' is claimed by both '" ++ first ++ "' and '" ++ second ++ "'"
  | .duplicateIndex index => s!"member index {index} is used by more than one VNF"
  | .invalidProperty name property fault =>
    "invalid property '" ++ property ++ "' on '" ++ name ++ "': " ++ fault.message
  | .entityMismatch name =>
    "'" ++ name ++ "' was dispatched to a handler for a different entity kind"
  | .invalidInput fault => "cannot translate descriptors: " ++ fault.message

end NfvCatalog.Translation
