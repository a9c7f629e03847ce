import NfvCatalog.Document.Format
import NfvCatalog.Tosca.Template

/-! # Templates as documents

Templates are read from YAML and written as YAML. The short and the long form of a requirement or an
artifact are told apart by the kind of the value, so an unquoted number is neither.
-/

namespace NfvCatalog.Tosca

namespace InputDefinition

/-- The fields of an input. -/
def shape : RecordShape := { names := ["type", "description", "default"] }

/-- Read an input. -/
def ofNode (node : Node) : Except Fault InputDefinition := do
  let r ← Record.ofNode false shape node
  return { inputType := ← r.optional "type" Node.asText
           description := ← r.optional "description" Node.asText
           default := ← r.optional "default" Node.resolve }

/-- Write an input. -/
def toValue (input : InputDefinition) : Value :=
  Value.ofWritten [
    .optionalText "type" input.inputType,
    .optionalText "description" input.description,
    .optional "default" input.default]

end InputDefinition

namespace RequirementTarget

/-- The fields of the long form. -/
def shape : RecordShape := { names := ["node", "capability", "relationship"] }

/-- Read the long form from a node whose scalars have their kinds. -/
def detailedOfNode (node : Node) : Except Fault RequirementTarget := do
  let r ← Record.ofNode true shape node
  return .detailed (← r.required "node" Node.asText) (← r.optional "capability" Node.asText)
    (← r.optional "relationship" Node.asText)

/-- Read a requirement's target. -/
def ofNode (node : Node) : Except Fault RequirementTarget := do
  match ← node.typed with
  | .text name => return .node name
  | other => detailedOfNode other

/-- Write a requirement's target. -/
def toValue : RequirementTarget → Value
  | .node name => .string name
  | .detailed name capability relationship =>
    Value.ofWritten [
      .text "node" name,
      .optionalText "capability" capability,
      .optionalText "relationship" relationship]

end RequirementTarget

namespace Capability

/-- The fields of a capability. -/
def shape : RecordShape := { names := ["properties"] }

/-- Read a capability. -/
def ofNode (node : Node) : Except Fault Capability := do
  let r ← Record.ofNode false shape node
  return { properties := ← r.withDefault "properties" [] Node.asValueEntries }

/-- Write a capability. -/
def toValue (capability : Capability) : Value :=
  Value.ofWritten [.entries "properties" capability.properties]

end Capability

namespace Artifact

/-- The fields of a full definition. -/
def shape : RecordShape := { names := ["file", "type", "description", "checksum"] }

/-- Read a full definition from a node whose scalars have their kinds. -/
def fullOfNode (node : Node) : Except Fault Artifact := do
  let r ← Record.ofNode true shape node
  return .full (← r.required "file" Node.asText) (← r.optional "type" Node.asText)
    (← r.optional "description" Node.asText) (← r.optional "checksum" Node.asText)

/-- Read an artifact. -/
def ofNode (node : Node) : Except Fault Artifact := do
  match ← node.typed with
  | .text file => return .path file
  | other => fullOfNode other

/-- Write an artifact. -/
def toValue : Artifact → Value
  | .path file => .string file
  | .full file artifactType description checksum =>
    Value.ofWritten [
      .text "file" file,
      .optionalText "type" artifactType,
      .optionalText "description" description,
      .optionalText "checksum" checksum]

end Artifact

namespace NodeTemplate

/-- The fields of a node. -/
def shape : RecordShape :=
  { names := ["type", "description", "properties", "requirements", "capabilities", "artifacts",
      "interfaces"]
    inner := [("capabilities", .values Capability.shape.extent)] }

/-- Read a node. -/
def ofNode (node : Node) : Except Fault NodeTemplate := do
  let r ← Record.ofNode false shape node
  return { nodeType := ← r.required "type" Node.asText
           description := ← r.optional "description" Node.asText
           properties := ← r.withDefault "properties" [] Node.asValueEntries
           requirements := ← r.list "requirements" (OrderedMap.ofNode RequirementTarget.ofNode)
           capabilities := ← r.withDefault "capabilities" .empty
             (OrderedMap.ofNode Capability.ofNode)
           artifacts := ← r.withDefault "artifacts" .empty (OrderedMap.ofNode Artifact.ofNode)
           interfaces := ← r.withDefault "interfaces" [] Node.asValueEntries }

/-- Write a node. -/
def toValue (node : NodeTemplate) : Value :=
  Value.ofWritten [
    .text "type" node.nodeType,
    .optionalText "description" node.description,
    .entries "properties" node.properties,
    .list "requirements" (OrderedMap.toValue RequirementTarget.toValue) node.requirements,
    .map "capabilities" Capability.toValue node.capabilities,
    .map "artifacts" Artifact.toValue node.artifacts,
    .entries "interfaces" node.interfaces]

end NodeTemplate

namespace Group

/-- The fields of a group. -/
def shape : RecordShape := { names := ["type", "description", "properties", "members"] }

/-- Read a group. -/
def ofNode (node : Node) : Except Fault Group := do
  let r ← Record.ofNode false shape node
  return { groupType := ← r.required "type" Node.asText
           description := ← r.optional "description" Node.asText
           properties := ← r.withDefault "properties" [] Node.asValueEntries
           members := ← r.list "members" Node.asText }

/-- Write a group. -/
def toValue (group : Group) : Value :=
  Value.ofWritten [
    .text "type" group.groupType,
    .optionalText "description" group.description,
    .entries "properties" group.properties,
    .list "members" Value.string group.members]

end Group

namespace Policy

/-- The fields of a policy. -/
def shape : RecordShape := { names := ["type", "description", "properties", "targets"] }

/-- Read a policy. -/
def ofNode (node : Node) : Except Fault Policy := do
  let r ← Record.ofNode false shape node
  return { policyType := ← r.required "type" Node.asText
           description := ← r.optional "description" Node.asText
           properties := ← r.withDefault "properties" [] Node.asValueEntries
           targets := ← r.list "targets" Node.asText }

/-- Write a policy. -/
def toValue (policy : Policy) : Value :=
  Value.ofWritten [
    .text "type" policy.policyType,
    .optionalText "description" policy.description,
    .entries "properties" policy.properties,
    .list "targets" Value.string policy.targets]

end Policy

namespace TypeDefinition

/-- The fields of a type declaration. -/
def shape : RecordShape := { names := ["derived_from", "description", "properties"] }

/-- Read a type declaration. -/
def ofNode (node : Node) : Except Fault TypeDefinition := do
  let r ← Record.ofNode false shape node
  return { derivedFrom := ← r.optional "derived_from" Node.asText
           description := ← r.optional "description" Node.asText
           properties := ← r.withDefault "properties" [] Node.asValueEntries }

/-- Write a type declaration. -/
def toValue (definition : TypeDefinition) : Value :=
  Value.ofWritten [
    .optionalText "derived_from" definition.derivedFrom,
    .optionalText "description" definition.description,
    .entries "properties" definition.properties]

end TypeDefinition

namespace Topology

/-- The fields of a topology. -/
def shape : RecordShape :=
  { names := ["description", "inputs", "node_templates", "groups", "policies"]
    inner := [
      ("inputs", .values InputDefinition.shape.extent),
      ("node_templates", .values NodeTemplate.shape.extent),
      ("groups", .values Group.shape.extent),
      ("policies", .items (.values Policy.shape.extent))] }

/-- Read a topology. -/
def ofNode (node : Node) : Except Fault Topology := do
  let r ← Record.ofNode false shape node
  return { description := ← r.optional "description" Node.asText
           inputs := ← r.withDefault "inputs" .empty (OrderedMap.ofNode InputDefinition.ofNode)
           nodes := ← r.withDefault "node_templates" .empty
             (OrderedMap.ofNode NodeTemplate.ofNode)
           groups := ← r.withDefault "groups" .empty (OrderedMap.ofNode Group.ofNode)
           policies := ← r.list "policies" (OrderedMap.ofNode Policy.ofNode) }

/-- Write a topology. Its nodes are written even when there are none. -/
def toValue (topology : Topology) : Value :=
  Value.ofWritten [
    .optionalText "description" topology.description,
    .map "inputs" InputDefinition.toValue topology.inputs,
    .optional "node_templates" (some (topology.nodes.toValue NodeTemplate.toValue)),
    .map "groups" Group.toValue topology.groups,
    .list "policies" (OrderedMap.toValue Policy.toValue) topology.policies]

end Topology

namespace Template

/-- The fields of a template. -/
def shape : RecordShape :=
  { names := ["tosca_definitions_version", "description", "metadata", "imports", "node_types",
      "group_types", "policy_types", "topology_template"]
    inner := [
      ("node_types", .values TypeDefinition.shape.extent),
      ("group_types", .values TypeDefinition.shape.extent),
      ("policy_types", .values TypeDefinition.shape.extent),
      ("topology_template", Topology.shape.extent)] }

/-- Read a template of any version. -/
def ofNode (node : Node) : Except Fault Template := do
  let r ← Record.ofNode false shape node
  let types (name : String) : Except Fault (OrderedMap TypeDefinition) :=
    r.withDefault name .empty (OrderedMap.ofNode TypeDefinition.ofNode)
  return { version := ← r.required "tosca_definitions_version" Node.asText
           description := ← r.optional "description" Node.asText
           metadata := ← r.withDefault "metadata" [] Node.asValueEntries
           imports := ← r.list "imports" Node.resolve
           nodeTypes := ← types "node_types"
           groupTypes := ← types "group_types"
           policyTypes := ← types "policy_types"
           topology := ← r.withDefault "topology_template" { } Topology.ofNode }

/-- Write a template. -/
def toValue (template : Template) : Value :=
  Value.ofWritten [
    .text "tosca_definitions_version" template.version,
    .optionalText "description" template.description,
    .entries "metadata" template.metadata,
    .list "imports" id template.imports,
    .map "node_types" TypeDefinition.toValue template.nodeTypes,
    .map "group_types" TypeDefinition.toValue template.groupTypes,
    .map "policy_types" TypeDefinition.toValue template.policyTypes,
    .optional "topology_template" (some template.topology.toValue)]

/-- Read a template from a document, whose version must be supported. -/
def ofDocument (node : Node) : Except TemplateError Template :=
  match ofNode node with
  | .error fault => .error (.malformed fault)
  | .ok template =>
    if supportedVersions.contains template.version then .ok template
    else .error (.unsupportedVersion template.version)

/-- Read a template from YAML text. -/
def parse (text : String) : Except TemplateError Template :=
  match (Yaml.read text).bind (·.within shape.extent) with
  | .error fault => .error (.malformed fault)
  | .ok node => ofDocument node

/-- Read the template in a file. -/
def load (tree : FileTree) (path : String) : Except TemplateError Template :=
  match tree.readText path with
  | .error error => .error (.unreadable error)
  | .ok text => parse text

/-- The YAML text of a template. -/
def print (template : Template) : String := Yaml.print template.toValue

/-- The YAML text of a template that has one. Only a template with tags may have none. -/
def write (template : Template) : Except TemplateError String :=
  (Yaml.write template.toValue).mapError .malformed

end Template

/-- Whether a document looks like a template. -/
def isTemplateDocument (value : Value) : Bool :=
  match value.mapping? with
  | some entries => entries.contains "tosca_definitions_version"
  | none => false

end NfvCatalog.Tosca
