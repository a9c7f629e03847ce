import NfvCatalog.Document.Properties
import NfvCatalog.Files.Tree
import NfvCatalog.Tosca.OrderedMap

/-! # TOSCA service templates

A template declares types and a topology of nodes, groups and policies. Only what the translation
of descriptors needs has a type of its own; property bags stay opaque.
-/

namespace NfvCatalog.Tosca

/-- The declaration of an input. -/
structure InputDefinition where
  inputType : Option String := none
  description : Option String := none
  default : Option Value := none
deriving DecidableEq, Repr, Inhabited

/-- What a requirement is met by: a node, in the short or the long form. -/
inductive RequirementTarget where
  | node (name : String)
  | detailed (name : String) (capability relationship : Option String)
deriving DecidableEq, Repr, Inhabited

/-- The node that meets a requirement. -/
def RequirementTarget.nodeName : RequirementTarget → String
  | .node name => name
  | .detailed name _ _ => name

/-- The properties of a capability. -/
structure Capability where
  properties : Value.Entries := []
deriving DecidableEq, Repr, Inhabited

/-- An artifact: a bare path, or a full definition. -/
inductive Artifact where
  | path (file : String)
  | full (file : String) (artifactType description checksum : Option String)
deriving DecidableEq, Repr, Inhabited

namespace Artifact

/-- The file of an artifact. -/
def file : Artifact → String
  | .path file => file
  | .full file .. => file

/-- The type of an artifact. -/
def artifactType? : Artifact → Option String
  | .path _ => none
  | .full _ artifactType _ _ => artifactType

/-- The checksum of an artifact. -/
def checksum? : Artifact → Option String
  | .path _ => none
  | .full _ _ _ checksum => checksum

end Artifact

/-- A node of a topology. -/
structure NodeTemplate where
  nodeType : String
  description : Option String := none
  properties : Value.Entries := []
  requirements : List (OrderedMap RequirementTarget) := []
  capabilities : OrderedMap Capability := .empty
  artifacts : OrderedMap Artifact := .empty
  interfaces : Value.Entries := []
deriving DecidableEq, Repr, Inhabited

namespace NodeTemplate

/-- The requirements by name with the nodes that meet them, in document order. -/
def requirementPairs (node : NodeTemplate) : List (String × String) :=
  node.requirements.flatMap fun entry =>
    entry.entries.map fun requirement => (requirement.1, requirement.2.nodeName)

/-- The nodes that meet the requirements of a name. -/
def targets (node : NodeTemplate) (requirement : String) : List String :=
  (node.requirementPairs.filter (·.1 = requirement)).map Prod.snd

/-- The node with one more requirement. -/
def addRequirement (node : NodeTemplate) (requirement target : String) : NodeTemplate :=
  { node with requirements := node.requirements ++ [.single requirement (.node target)] }

/-- The node with a property set. -/
def setProperty (node : NodeTemplate) (key : String) (value : Value) : NodeTemplate :=
  { node with properties := node.properties.set key value }

/-- The node with a property of a capability set. -/
def setCapability (node : NodeTemplate) (capability key : String) (value : Value) :
    NodeTemplate :=
  let old := (node.capabilities.get? capability).getD { }
  { node with
    capabilities := node.capabilities.insert capability ⟨old.properties.set key value⟩ }

end NodeTemplate

/-- A group of nodes. -/
structure Group where
  groupType : String
  description : Option String := none
  properties : Value.Entries := []
  members : List String := []
deriving DecidableEq, Repr, Inhabited

/-- A policy on nodes. -/
structure Policy where
  policyType : String
  description : Option String := none
  properties : Value.Entries := []
  targets : List String := []
deriving DecidableEq, Repr, Inhabited

/-- The declaration of a type. -/
structure TypeDefinition where
  derivedFrom : Option String := none
  description : Option String := none
  properties : Value.Entries := []
deriving DecidableEq, Repr, Inhabited

/-- The topology of a template. Policies are written as a list of maps. -/
structure Topology where
  description : Option String := none
  inputs : OrderedMap InputDefinition := .empty
  nodes : OrderedMap NodeTemplate := .empty
  groups : OrderedMap Group := .empty
  policies : List (OrderedMap Policy) := []
deriving DecidableEq, Repr, Inhabited

namespace Topology

/-- The policies with their names in document order. -/
def policyPairs (topology : Topology) : List (String × Policy) :=
  topology.policies.flatMap (·.entries)

/-- The topology with one more policy. -/
def addPolicy (topology : Topology) (name : String) (policy : Policy) : Topology :=
  { topology with policies := topology.policies ++ [.single name policy] }

end Topology

/-- Which table of declared types a name is looked up in. -/
inductive TypeTable where
  | node
  | group
  | policy
deriving DecidableEq, Repr, Inhabited

/-- A service template. -/
structure Template where
  version : String := ""
  description : Option String := none
  metadata : Value.Entries := []
  imports : List Value := []
  nodeTypes : OrderedMap TypeDefinition := .empty
  groupTypes : OrderedMap TypeDefinition := .empty
  policyTypes : OrderedMap TypeDefinition := .empty
  topology : Topology := { }
deriving DecidableEq, Repr, Inhabited

/-- The definitions versions that are understood. -/
def supportedVersions : List String :=
  ["tosca_simple_yaml_1_0", "tosca_simple_yaml_1_1", "tosca_simple_profile_for_nfv_1_0",
    "tosca_simple_profile_for_nfv_1_0_0"]

/-- The definitions version of templates made from descriptors. -/
def profileVersion : String := "tosca_simple_profile_for_nfv_1_0"

/-- Why a template cannot be used. -/
inductive TemplateError where
  | unreadable (error : FileError)
  | malformed (fault : Fault)
  | unsupportedVersion (version : String)
  | unknownInput (name : String)
  | missingInput (name : String)
  | invalidSize (text : String)
  | typeCycle (name : String)
deriving DecidableEq, Repr, Inhabited

/-- The wording of a template error. -/
def TemplateError.message : TemplateError → String
  | .unreadable error => "failed to read template: " ++ error.message
  | .malformed fault => "failed to parse template: " ++ fault.message
  | .unsupportedVersion version =>
    "unsupported tosca_definitions_version '" ++ version ++ "'"
  | .unknownInput name => "input '" ++ name ++ "' is not declared"
  | .missingInput name => "input '" ++ name ++ "' has no value and no default"
  | .invalidSize text => "invalid scalar size '" ++ text ++ "'"
  | .typeCycle name => "type '" ++ name ++ "' has a cyclic derived_from chain"

namespace Template

/-- An empty template of the profile. -/
def new (description : Option String) : Template :=
  { version := profileVersion, description := description }

/-- A table of declared types. -/
def types (template : Template) : TypeTable → OrderedMap TypeDefinition
  | .node => template.nodeTypes
  | .group => template.groupTypes
  | .policy => template.policyTypes

/-- The template with a metadata entry set. -/
def setMetadata (template : Template) (key : String) (value : Value) : Template :=
  { template with metadata := template.metadata.set key value }

end Template

end NfvCatalog.Tosca

/-! ## Chains of derived types

A declared type may be derived from another. The chain of a type starts at the type and ends at the
first one that is not declared in the template or has no parent.
-/

namespace NfvCatalog.Tosca

/-- The type that a declared type is derived from. -/
def parentType? (types : OrderedMap TypeDefinition) (name : String) : Option String :=
  (types.get? name).bind (·.derivedFrom)

/-- The ancestors of a type, from its parent on; nothing if a type comes up again. All types but the
last are declared, so more steps than declared types must repeat one. -/
def ancestors? (types : OrderedMap TypeDefinition) :
    Nat → List String → String → Option (List String)
  | 0, _, _ => none
  | steps + 1, seen, current =>
    match parentType? types current with
    | none => some []
    | some parent =>
      if parent ∈ seen then none
      else (ancestors? types steps (parent :: seen) parent).map (parent :: ·)

/-- A type and its ancestors. -/
def typeChain (types : OrderedMap TypeDefinition) (name : String) :
    Except TemplateError (List String) :=
  match ancestors? types (types.size + 1) [name] name with
  | some chain => .ok (name :: chain)
  | none => .error (.typeCycle name)

/-- A type of a template and its ancestors. -/
def Template.typeChain (template : Template) (table : TypeTable) (name : String) :
    Except TemplateError (List String) :=
  Tosca.typeChain (template.types table) name

end NfvCatalog.Tosca
