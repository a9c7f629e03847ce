import NfvCatalog.Descriptor.Nsd
import NfvCatalog.Descriptor.VnfdRecord

/-! # NSDs as documents

Reading an NSD from a node and writing it as a value, by the same rules as for VNFDs. The value of a
primitive's parameter is always written, as null when it is unset.
-/

namespace NfvCatalog

namespace ConstituentVnfd

/-- The fields of a constituent. -/
def shape : RecordShape := { names := ["member-vnf-index", "vnfd-id-ref", "start-by-default"] }

/-- Read a constituent. -/
def ofNode (positional : Bool) (node : Node) : Except Fault ConstituentVnfd := do
  let r ← Record.ofNode positional shape node
  return { index := ← r.required "member-vnf-index" Node.asUInt32
           vnfd := ← r.required "vnfd-id-ref" Node.asText
           startByDefault := ← r.optional "start-by-default" Node.asBool }

/-- Write a constituent. -/
def toValue (constituent : ConstituentVnfd) : Value :=
  Value.ofWritten [
    .natural "member-vnf-index" constituent.index.toNat,
    .text "vnfd-id-ref" constituent.vnfd,
    .optionalBool "start-by-default" constituent.startByDefault]

end ConstituentVnfd

namespace ProviderNetwork

/-- The fields of a provider network. Only the name of the segmentation has an underscore. -/
def shape : RecordShape := { names := ["physical-network", "overlay-type", "segmentation_id"] }

/-- Read a provider network. -/
def ofNode (positional : Bool) (node : Node) : Except Fault ProviderNetwork := do
  let r ← Record.ofNode positional shape node
  return { physicalNetwork := ← r.optional "physical-network" Node.asText
           overlayType := ← r.optional "overlay-type" Node.asText
           segmentation := ← r.optional "segmentation_id" Node.asUInt32 }

/-- Write a provider network. -/
def toValue (provider : ProviderNetwork) : Value :=
  Value.ofWritten [
    .optionalText "physical-network" provider.physicalNetwork,
    .optionalText "overlay-type" provider.overlayType,
    .optionalNatural "segmentation_id" (provider.segmentation.map (·.toNat))]

end ProviderNetwork

namespace PointRef

/-- The fields of a reference to a connection point. -/
def shape : RecordShape :=
  { names := ["member-vnf-index-ref", "vnfd-id-ref", "vnfd-connection-point-ref"] }

/-- Read a reference to a connection point. -/
def ofNode (positional : Bool) (node : Node) : Except Fault PointRef := do
  let r ← Record.ofNode positional shape node
  return { member := ← r.required "member-vnf-index-ref" Node.asUInt32
           vnfd := ← r.required "vnfd-id-ref" Node.asText
           point := ← r.required "vnfd-connection-point-ref" Node.asText }

/-- Write a reference to a connection point. -/
def toValue (ref : PointRef) : Value :=
  Value.ofWritten [
    .natural "member-vnf-index-ref" ref.member.toNat,
    .text "vnfd-id-ref" ref.vnfd,
    .text "vnfd-connection-point-ref" ref.point]

end PointRef

namespace Vld

/-- The fields of a link. -/
def shape : RecordShape :=
  { names := ["id", "name", "short-name", "description", "vendor", "type", "vim-network-name",
      "provider-network", "vnfd-connection-point-ref"]
    inner := [
      ("provider-network", ProviderNetwork.shape.extent),
      ("vnfd-connection-point-ref", .items PointRef.shape.extent)] }

/-- Read a link. -/
def ofNode (positional : Bool) (node : Node) : Except Fault Vld := do
  let r ← Record.ofNode positional shape node
  return { id := ← r.required "id" Node.asText
           name := ← r.withDefault "name" "" Node.asText
           shortName := ← r.optional "short-name" Node.asText
           description := ← r.optional "description" Node.asText
           vendor := ← r.optional "vendor" Node.asText
           linkType := ← r.optional "type" Node.asText
           vimNetwork := ← r.optional "vim-network-name" Node.asText
           provider := ← r.optional "provider-network" (ProviderNetwork.ofNode positional)
           pointRefs := ← r.list "vnfd-connection-point-ref" (PointRef.ofNode positional) }

/-- Write a link. -/
def toValue (vld : Vld) : Value :=
  Value.ofWritten [
    .text "id" vld.id,
    .text "name" vld.name,
    .optionalText "short-name" vld.shortName,
    .optionalText "description" vld.description,
    .optionalText "vendor" vld.vendor,
    .optionalText "type" vld.linkType,
    .optionalText "vim-network-name" vld.vimNetwork,
    .optional "provider-network" (vld.provider.map ProviderNetwork.toValue),
    .list "vnfd-connection-point-ref" PointRef.toValue vld.pointRefs]

end Vld

namespace ScalingMember

/-- The fields of a scaling member. -/
def shape : RecordShape := { names := ["member-vnf-index-ref", "count"] }

/-- Read a scaling member. -/
def ofNode (positional : Bool) (node : Node) : Except Fault ScalingMember := do
  let r ← Record.ofNode positional shape node
  return { member := ← r.required "member-vnf-index-ref" Node.asUInt32
           count := ← r.withDefault "count" 1 Node.asUInt32 }

/-- Write a scaling member. -/
def toValue (member : ScalingMember) : Value :=
  Value.ofWritten [
    .natural "member-vnf-index-ref" member.member.toNat, .natural "count" member.count.toNat]

end ScalingMember

namespace ScalingAction

/-- The fields of a scaling action. -/
def shape : RecordShape := { names := ["trigger", "ns-config-primitive-name-ref"] }

/-- Read a scaling action. -/
def ofNode (positional : Bool) (node : Node) : Except Fault ScalingAction := do
  let r ← Record.ofNode positional shape node
  return { trigger := ← r.required "trigger" Node.asText
           primitive := ← r.required "ns-config-primitive-name-ref" Node.asText }

/-- Write a scaling action. -/
def toValue (action : ScalingAction) : Value :=
  Value.ofWritten [
    .text "trigger" action.trigger, .text "ns-config-primitive-name-ref" action.primitive]

end ScalingAction

namespace ScalingGroup

/-- The fields of a scaling group. -/
def shape : RecordShape :=
  { names := ["name", "min-instance-count", "max-instance-count", "vnfd-member",
      "scaling-config-action"]
    inner := [
      ("vnfd-member", .items ScalingMember.shape.extent),
      ("scaling-config-action", .items ScalingAction.shape.extent)] }

/-- Read a scaling group. -/
def ofNode (positional : Bool) (node : Node) : Except Fault ScalingGroup := do
  let r ← Record.ofNode positional shape node
  return { name := ← r.required "name" Node.asText
           minInstances := ← r.optional "min-instance-count" Node.asUInt32
           maxInstances := ← r.optional "max-instance-count" Node.asUInt32
           members := ← r.list "vnfd-member" (ScalingMember.ofNode positional)
           actions := ← r.list "scaling-config-action" (ScalingAction.ofNode positional) }

/-- Write a scaling group. -/
def toValue (group : ScalingGroup) : Value :=
  Value.ofWritten [
    .text "name" group.name,
    .optionalNatural "min-instance-count" (group.minInstances.map (·.toNat)),
    .optionalNatural "max-instance-count" (group.maxInstances.map (·.toNat)),
    .list "vnfd-member" ScalingMember.toValue group.members,
    .list "scaling-config-action" ScalingAction.toValue group.actions]

end ScalingGroup

namespace PlacementMember

/-- The fields of a placement member. -/
def shape : RecordShape := { names := ["member-vnf-index-ref", "vnfd-id-ref"] }

/-- Read a placement member. -/
def ofNode (positional : Bool) (node : Node) : Except Fault PlacementMember := do
  let r ← Record.ofNode positional shape node
  return { member := ← r.required "member-vnf-index-ref" Node.asUInt32
           vnfd := ← r.required "vnfd-id-ref" Node.asText }

/-- Write a placement member. -/
def toValue (member : PlacementMember) : Value :=
  Value.ofWritten [
    .natural "member-vnf-index-ref" member.member.toNat, .text "vnfd-id-ref" member.vnfd]

end PlacementMember

namespace PlacementGroup

/-- The fields of a placement group. -/
def shape : RecordShape :=
  { names := ["name", "requirement", "strategy", "member-vnfd"]
    inner := [("member-vnfd", .items PlacementMember.shape.extent)] }

/-- Read a placement group. -/
def ofNode (positional : Bool) (node : Node) : Except Fault PlacementGroup := do
  let r ← Record.ofNode positional shape node
  return { name := ← r.required "name" Node.asText
           requirement := ← r.optional "requirement" Node.asText
           strategy := ← r.optional "strategy" Node.asText
           members := ← r.list "member-vnfd" (PlacementMember.ofNode positional) }

/-- Write a placement group. -/
def toValue (group : PlacementGroup) : Value :=
  Value.ofWritten [
    .text "name" group.name,
    .optionalText "requirement" group.requirement,
    .optionalText "strategy" group.strategy,
    .list "member-vnfd" PlacementMember.toValue group.members]

end PlacementGroup

namespace PrimitiveParameter

/-- The fields of a parameter. -/
def shape : RecordShape := { names := ["name", "value"] }

/-- Read a parameter. -/
def ofNode (positional : Bool) (node : Node) : Except Fault PrimitiveParameter := do
  let r ← Record.ofNode positional shape node
  return { name := ← r.required "name" Node.asText
           value := ← r.looseText "value" }

/-- Write a parameter. -/
def toValue (parameter : PrimitiveParameter) : Value :=
  Value.ofWritten [
    .text "name" parameter.name,
    .optional "value" (some ((parameter.value.map Value.string).getD .null))]

end PrimitiveParameter

namespace ConfigPrimitive

/-- The fields of a primitive. -/
def shape : RecordShape :=
  { names := ["seq", "name", "user-defined-script", "parameter"]
    inner := [("parameter", .items PrimitiveParameter.shape.extent)] }

/-- Read a primitive. -/
def ofNode (positional : Bool) (node : Node) : Except Fault ConfigPrimitive := do
  let r ← Record.ofNode positional shape node
  return { seq := ← r.required "seq" Node.asUInt32
           name := ← r.required "name" Node.asText
           script := ← r.optional "user-defined-script" Node.asText
           parameters := ← r.list "parameter" (PrimitiveParameter.ofNode positional) }

/-- Write a primitive. -/
def toValue (primitive : ConfigPrimitive) : Value :=
  Value.ofWritten [
    .natural "seq" primitive.seq.toNat,
    .text "name" primitive.name,
    .optionalText "user-defined-script" primitive.script,
    .list "parameter" PrimitiveParameter.toValue primitive.parameters]

end ConfigPrimitive

namespace PathHop

/-- The fields of a hop. -/
def shape : RecordShape :=
  { names := ["member-vnf-index-ref", "order", "vnfd-id-ref", "vnfd-connection-point-ref"] }

/-- Read a hop. -/
def ofNode (positional : Bool) (node : Node) : Except Fault PathHop := do
  let r ← Record.ofNode positional shape node
  return { member := ← r.required "member-vnf-index-ref" Node.asUInt32
           order := ← r.required "order" Node.asUInt32
           vnfd := ← r.required "vnfd-id-ref" Node.asText
           point := ← r.required "vnfd-connection-point-ref" Node.asText }

/-- Write a hop. -/
def toValue (hop : PathHop) : Value :=
  Value.ofWritten [
    .natural "member-vnf-index-ref" hop.member.toNat,
    .natural "order" hop.order.toNat,
    .text "vnfd-id-ref" hop.vnfd,
    .text "vnfd-connection-point-ref" hop.point]

end PathHop

namespace ServicePath

/-- The fields of a path. -/
def shape : RecordShape :=
  { names := ["id", "name", "vnfd-connection-point-ref"]
    inner := [("vnfd-connection-point-ref", .items PathHop.shape.extent)] }

/-- Read a path. -/
def ofNode (positional : Bool) (node : Node) : Except Fault ServicePath := do
  let r ← Record.ofNode positional shape node
  return { id := ← r.required "id" Node.asText
           name := ← r.withDefault "name" "" Node.asText
           hops := ← r.list "vnfd-connection-point-ref" (PathHop.ofNode positional) }

/-- Write a path. -/
def toValue (path : ServicePath) : Value :=
  Value.ofWritten [
    .text "id" path.id,
    .text "name" path.name,
    .list "vnfd-connection-point-ref" PathHop.toValue path.hops]

end ServicePath

namespace ForwardingGraph

/-- The fields of a forwarding graph. -/
def shape : RecordShape :=
  { names := ["id", "name", "vendor", "version", "rsp"]
    inner := [("rsp", .items ServicePath.shape.extent)] }

/-- Read a forwarding graph. -/
def ofNode (positional : Bool) (node : Node) : Except Fault ForwardingGraph := do
  let r ← Record.ofNode positional shape node
  return { id := ← r.required "id" Node.asText
           name := ← r.withDefault "name" "" Node.asText
           vendor := ← r.optional "vendor" Node.asText
           version := ← r.looseText "version"
           paths := ← r.list "rsp" (ServicePath.ofNode positional) }

/-- Write a forwarding graph. -/
def toValue (graph : ForwardingGraph) : Value :=
  Value.ofWritten [
    .text "id" graph.id,
    .text "name" graph.name,
    .optionalText "vendor" graph.vendor,
    .optionalText "version" graph.version,
    .list "rsp" ServicePath.toValue graph.paths]

end ForwardingGraph

namespace InputParameter

/-- The fields of an input parameter. -/
def shape : RecordShape := { names := ["xpath", "label", "default-value"] }

/-- Read an input parameter. -/
def ofNode (positional : Bool) (node : Node) : Except Fault InputParameter := do
  let r ← Record.ofNode positional shape node
  return { xpath := ← r.required "xpath" Node.asText
           label := ← r.optional "label" Node.asText
           default := ← r.looseText "default-value" }

/-- Write an input parameter. -/
def toValue (input : InputParameter) : Value :=
  Value.ofWritten [
    .text "xpath" input.xpath,
    .optionalText "label" input.label,
    .optionalText "default-value" input.default]

end InputParameter

namespace Nsd

/-- The fields of an NSD. -/
def shape : RecordShape :=
  { names := ["id", "name", "short-name", "vendor", "description", "version", "logo",
      "constituent-vnfd", "vld", "scaling-group-descriptor", "placement-groups",
      "initial-config-primitive", "vnffgd", "input-parameter-xpath"]
    inner := [
      ("constituent-vnfd", .items ConstituentVnfd.shape.extent),
      ("vld", .items Vld.shape.extent),
      ("scaling-group-descriptor", .items ScalingGroup.shape.extent),
      ("placement-groups", .items PlacementGroup.shape.extent),
      ("initial-config-primitive", .items ConfigPrimitive.shape.extent),
      ("vnffgd", .items ForwardingGraph.shape.extent),
      ("input-parameter-xpath", .items InputParameter.shape.extent)] }

/-- Read an NSD. -/
def ofNode (positional : Bool) (node : Node) : Except Fault Nsd := do
  let r ← Record.ofNode positional shape node
  return { id := ← r.required "id" Node.asText
           name := ← r.withDefault "name" "" Node.asText
           shortName := ← r.optional "short-name" Node.asText
           vendor := ← r.optional "vendor" Node.asText
           description := ← r.optional "description" Node.asText
           version := ← r.looseText "version"
           logo := ← r.optional "logo" Node.asText
           constituents := ← r.list "constituent-vnfd" (ConstituentVnfd.ofNode positional)
           vlds := ← r.list "vld" (Vld.ofNode positional)
           scalingGroups := ← r.list "scaling-group-descriptor" (ScalingGroup.ofNode positional)
           placementGroups := ← r.list "placement-groups" (PlacementGroup.ofNode positional)
           primitives := ← r.list "initial-config-primitive" (ConfigPrimitive.ofNode positional)
           graphs := ← r.list "vnffgd" (ForwardingGraph.ofNode positional)
           inputs := ← r.list "input-parameter-xpath" (InputParameter.ofNode positional) }

/-- Write an NSD. -/
def toValue (nsd : Nsd) : Value :=
  Value.ofWritten [
    .text "id" nsd.id,
    .text "name" nsd.name,
    .optionalText "short-name" nsd.shortName,
    .optionalText "vendor" nsd.vendor,
    .optionalText "description" nsd.description,
    .optionalText "version" nsd.version,
    .optionalText "logo" nsd.logo,
    .list "constituent-vnfd" ConstituentVnfd.toValue nsd.constituents,
    .list "vld" Vld.toValue nsd.vlds,
    .list "scaling-group-descriptor" ScalingGroup.toValue nsd.scalingGroups,
    .list "placement-groups" PlacementGroup.toValue nsd.placementGroups,
    .list "initial-config-primitive" ConfigPrimitive.toValue nsd.primitives,
    .list "vnffgd" ForwardingGraph.toValue nsd.graphs,
    .list "input-parameter-xpath" InputParameter.toValue nsd.inputs]

end Nsd

end NfvCatalog
