import NfvCatalog.Descriptor.Set
import NfvCatalog.Text.Blank
import NfvCatalog.Tosca.Size
import NfvCatalog.Translation.Error

/-! # From descriptors to templates

A set of one service, or of functions only, becomes a template of the NFV profile. Every constituent
gets nodes of its own: one for the VNF, one for each machine and one for each interface; so two
constituents of one descriptor give two sets of nodes.
-/

namespace NfvCatalog.Translation

open Tosca

/-- A mapping of the properties that have a value. -/
def properties (fields : List (String × Option Value)) : Value.Entries :=
  fields.filterMap fun field => field.2.map fun value => (.string field.1, value)

/-- An optional text as a property. -/
def textProperty (value : Option String) : Option Value := value.map .string

/-- A number of 32 bits as a value. -/
def wordValue (n : UInt32) : Value := .ofNat n.toNat

/-- A port as a value. -/
def portValue (n : UInt16) : Value := .ofNat n.toNat

/-- The name to use, or else the id. -/
def labelOf (name id : String) : String := if name.isEmpty then id else name

/-! ## Names of nodes

The names of nodes are made of letters, digits and underscores. A name that is taken gets the
smallest number from two on that makes it new.
-/

/-- Whether a character may stand in a node's name. -/
def isNameChar (c : Char) : Bool := c.isAlphanum || c = '_'

/-- A text as a node's name. -/
def nodeBase (raw : String) : String :=
  if raw.isEmpty then "node"
  else String.ofList (raw.toList.map fun c => if isNameChar c then c else '_')

/-- A name and its numbered variants, as many as are needed beside a number of taken names. -/
def variants (base : String) (taken : Nat) : List String :=
  base :: (List.range taken).map fun n => base ++ "_" ++ toString (n + 2)

/-- The first variant of a name that is not taken. -/
def freeName (used : List String) (raw : String) : String :=
  let base := nodeBase raw
  ((variants base used.length).find? (· ∉ used)).getD base

/-- Name texts one after another; the names that are taken afterwards come with them. -/
def allocate (used : List String) : List String → List String × List String
  | [] => ([], used)
  | raw :: rest =>
    let name := freeName used raw
    let (names, used) := allocate (name :: used) rest
    (name :: names, used)

/-! ## Links -/

/-- The node of a link. -/
def linkNode (vld : Vld) : NodeTemplate :=
  { nodeType :=
      if vld.linkType.map Text.asciiUpper = some "ELINE" then "tosca.nodes.nfv.VL.ELine"
      else "tosca.nodes.nfv.VL.ELAN"
    properties := properties [
      ("id", some (.string vld.id)),
      ("name", some (.string vld.name)),
      ("short_name", textProperty vld.shortName),
      ("description", textProperty vld.description),
      ("vendor", textProperty vld.vendor),
      ("type", textProperty vld.linkType),
      ("vim_network_name", textProperty vld.vimNetwork),
      ("physical_network", textProperty (vld.provider.bind (·.physicalNetwork))),
      ("overlay_type", textProperty (vld.provider.bind (·.overlayType))),
      ("segmentation_id", (vld.provider.bind (·.segmentation)).map wordValue)] }

/-- Links with the names of their nodes. -/
abbrev NamedLinks := List (String × Vld)

/-- The links that a connection point of a member is on, once for each reference. -/
def linksOf (links : NamedLinks) (member : UInt32) (point : String) : List String :=
  links.flatMap fun (name, vld) =>
    (vld.pointRefs.filter fun ref => ref.member = member ∧ ref.point = point).map fun _ => name

/-! ## Machines -/

/-- A capability property that is a mapping, left out when it is empty. -/
def capabilityPart (name : String) (entries : Value.Entries) : List (Value × Value) :=
  if entries.isEmpty then [] else [(.string name, .mapping entries)]

/-- The compute requirements of a machine. -/
def computeSections (vdu : Vdu) : Value.Entries :=
  let flavor := vdu.flavor.getD { }
  let epa := vdu.epa.getD { }
  capabilityPart "virtual_cpu" (properties [
      ("num_virtual_cpu", flavor.vcpus.map wordValue),
      ("cpu_pinning_policy", textProperty epa.cpuPinning)]) ++
    capabilityPart "virtual_memory" (properties [
      ("virtual_mem_size", flavor.memoryMb.map fun mb => .string (formatMb mb)),
      ("mem_page_size", textProperty epa.mempageSize)]) ++
    capabilityPart "virtual_storage" (properties [
      ("size_of_storage", flavor.storageGb.map fun gb => .string (formatGb gb))])

/-- The image artifact of a machine. -/
def imageArtifact (vdu : Vdu) : List (String × Tosca.Artifact) :=
  (vdu.image.map fun image =>
    ("image", .full ("images/" ++ image) (some "tosca.artifacts.Deployment.Image.VM") none
      vdu.imageChecksum)).toList

/-- The start-up artifact of a machine. -/
def cloudInitArtifact (vdu : Vdu) : List (String × Tosca.Artifact) :=
  (vdu.cloudInit.map fun file =>
    ("cloud_init", .full ("cloud_init/" ++ file) (some "tosca.artifacts.Deployment.CloudInit") none
      none)).toList

/-- The node of a machine. -/
def machineNode (vdu : Vdu) : NodeTemplate :=
  let sections := computeSections vdu
  { nodeType := "tosca.nodes.nfv.VDU"
    properties := properties [
      ("id", some (.string vdu.id)),
      ("name", some (.string vdu.name)),
      ("description", textProperty vdu.description),
      ("count", vdu.count.map wordValue)]
    capabilities :=
      if sections.isEmpty then .empty else .single "virtual_compute" ⟨sections⟩
    artifacts := .ofList (imageArtifact vdu ++ cloudInitArtifact vdu) }

/-! ## Functions -/

/-- A dashboard as properties. -/
def dashboardProperties (dashboard : Dashboard) : Value :=
  .mapping (properties [
    ("path", textProperty dashboard.path),
    ("port", dashboard.port.map portValue),
    ("https", dashboard.https.map .bool)])

/-- A management interface as properties. The machine is named by its node. -/
def mgmtProperties (machines : List (String × Vdu)) (mgmt : MgmtInterface) : Value.Entries :=
  let node := mgmt.vdu.bind fun id => (machines.find? (·.2.id = id)).map Prod.fst
  properties [
    ("vdu", textProperty node),
    ("cp", textProperty mgmt.cp),
    ("port", mgmt.port.map portValue),
    ("dashboard_params", mgmt.dashboard.map dashboardProperties)]

/-- The node of a VNF. The member index is written in a service only. -/
def functionNode (vnfd : Vnfd) (member : ConstituentVnfd) (inService : Bool)
    (machines : List (String × Vdu)) : NodeTemplate :=
  let mgmt := vnfd.mgmt.bind fun mgmt =>
    let entries := mgmtProperties machines mgmt
    if entries.isEmpty then none else some (.mapping entries)
  { nodeType := "tosca.nodes.nfv.VNF"
    properties := properties [
      ("id", some (.string vnfd.id)),
      ("name", some (.string vnfd.name)),
      ("short_name", textProperty vnfd.shortName),
      ("vendor", textProperty vnfd.vendor),
      ("version", textProperty vnfd.version),
      ("description", textProperty vnfd.description),
      ("logo", vnfd.logo.map fun logo => .string ("icons/" ++ logo)),
      ("member_index", if inService then some (wordValue member.index) else none),
      ("start_by_default", member.startByDefault.map .bool),
      ("mgmt_interface", mgmt),
      ("vnf_configuration", vnfd.configuration)]
    requirements := machines.map fun machine => .single "vdus" (.node machine.1) }

/-- The node of an interface and the connection point behind it. -/
def interfaceNode (vnfd : Vnfd) (member : UInt32) (links : NamedLinks) (machine : String)
    (interface : ExternalInterface) : NodeTemplate :=
  let point := interface.pointRef
  let pointType := ((vnfd.point? point).map (·.pointType)).getD defaultPointType
  { nodeType := "tosca.nodes.nfv.CP"
    properties := properties [
      ("name", some (.string point)),
      ("cp_type", some (.string pointType)),
      ("vdu_intf_name", some (.string interface.name)),
      ("vdu_intf_type", textProperty interface.virtualType)]
    requirements := .single "virtualBinding" (.node machine) ::
      (linksOf links member point).map fun link => .single "virtualLink" (.node link) }

/-- The nodes of one constituent: the name of each, with what it stands for. -/
structure MemberNodes where
  member : ConstituentVnfd
  vnfd : Vnfd
  vnf : String
  machines : List (String × Vdu)
  /-- Each interface with its machine. -/
  interfaces : List (String × (String × Vdu) × ExternalInterface)
deriving DecidableEq, Repr

namespace MemberNodes

/-- The connection point behind each interface, with the interface's node. -/
def points (m : MemberNodes) : List (String × String) :=
  m.interfaces.map fun (name, _, interface) => (interface.pointRef, name)

/-- The nodes of a constituent: the VNF, its machines, their interfaces. -/
def nodes (m : MemberNodes) (inService : Bool) (links : NamedLinks) :
    List (String × NodeTemplate) :=
  (m.vnf, functionNode m.vnfd m.member inService m.machines) ::
    m.machines.map (fun (name, vdu) => (name, machineNode vdu)) ++
    m.interfaces.map (fun (name, machine, interface) =>
      (name, interfaceNode m.vnfd m.member.index links machine.1 interface))

end MemberNodes

/-- Name the nodes of a constituent; the names that are taken afterwards come with them. -/
def memberNodes (vnfd : Vnfd) (member : ConstituentVnfd) (used : List String) :
    MemberNodes × List String :=
  let vnf := freeName used vnfd.displayName
  let (vduNames, used) :=
    allocate (vnf :: used) (vnfd.vdus.map fun vdu => labelOf vdu.name vdu.id)
  let machines := vduNames.zip vnfd.vdus
  let interfaces := machines.flatMap fun machine => machine.2.interfaces.map fun i => (machine, i)
  let (pointNames, used) := allocate used (interfaces.map fun i => i.2.pointRef)
  ({ member := member, vnfd := vnfd, vnf := vnf, machines := machines
     interfaces := pointNames.zip interfaces }, used)

/-- Name the nodes of all constituents. -/
def allMemberNodes (set : DescriptorSet) (used : List String) :
    List ConstituentVnfd → Except TranslationError (List MemberNodes × List String)
  | [] => .ok ([], used)
  | member :: rest =>
    match set.vnfd? member.vnfd with
    | none => .error (.invalidInput (.vnfdNotSupplied member.index member.vnfd))
    | some vnfd => do
      let (nodes, used) := memberNodes vnfd member used
      let (others, used) ← allMemberNodes set used rest
      return (nodes :: others, used)

/-- The node of a constituent's VNF. Of equal indices the last counts. -/
def vnfOf? (members : List MemberNodes) (index : UInt32) : Option String :=
  (members.reverse.find? (·.member.index = index)).map (·.vnf)

/-- The node of a connection point. Of equal ones the last counts. -/
def pointOf? (members : List MemberNodes) (index : UInt32) (point : String) : Option String :=
  members.reverse.findSome? fun m =>
    if m.member.index = index then (m.points.reverse.find? (·.1 = point)).map Prod.snd
    else none

/-! ## Forwarding graphs -/

/-- The node of a path. A hop without a node is left out. -/
def pathNode (members : List MemberNodes) (path : ServicePath) : NodeTemplate :=
  let hops := path.hops.mergeSort fun a b => a.order ≤ b.order
  let points := hops.filterMap fun hop => pointOf? members hop.member hop.point
  { nodeType := "tosca.nodes.nfv.FP"
    properties := properties [("id", some (.string path.id)), ("name", some (.string path.name))]
    requirements := points.map fun node => .single "forwarder" (.node node) }

/-- The group of a graph, whose members are its paths. -/
def graphGroup (graph : ForwardingGraph) (paths : List String) : Group :=
  { groupType := "tosca.groups.nfv.VNFFG"
    properties := properties [
      ("id", some (.string graph.id)),
      ("name", some (.string graph.name)),
      ("vendor", textProperty graph.vendor),
      ("version", textProperty graph.version)]
    members := paths }

/-- The nodes of one graph: the name of its group and the node of each path. -/
structure GraphNodes where
  group : String
  graph : ForwardingGraph
  paths : List (String × ServicePath)
deriving DecidableEq, Repr

/-- Name the nodes of graphs one after another: the paths of each, then its group. -/
def allGraphNodes (used : List String) : List ForwardingGraph → List GraphNodes
  | [] => []
  | graph :: rest =>
    let (names, used) := allocate used (graph.paths.map fun path => labelOf path.name path.id)
    let group := freeName used (labelOf graph.name graph.id)
    { group := group, graph := graph, paths := names.zip graph.paths } ::
      allGraphNodes (group :: used) rest

/-! ## Policies -/

/-- A mapping in which a repeated key keeps its place and takes the last value. -/
def collected (entries : List (String × Value)) : Value.Entries :=
  entries.foldl (fun done entry => done.set entry.1 entry.2) []

/-- A mapping as a property, left out when it is empty. -/
def mappingProperty (entries : Value.Entries) : Option Value :=
  if entries.isEmpty then none else some (.mapping entries)

/-- The policy of a scaling group. A member that is no constituent is left out. -/
def scalingPolicy (members : List MemberNodes) (group : ScalingGroup) : Policy :=
  let scaled := group.members.filterMap fun m =>
    (vnfOf? members m.member).map fun node => (node, m.count)
  { policyType := "tosca.policies.riftio.ScalingGroup"
    properties := properties [
      ("name", some (.string group.name)),
      ("min_instance_count", group.minInstances.map wordValue),
      ("max_instance_count", group.maxInstances.map wordValue),
      ("vnfd_members",
        mappingProperty (collected (scaled.map fun (node, count) => (node, wordValue count)))),
      ("config_actions",
        mappingProperty (collected (group.actions.map fun a => (a.trigger, .string a.primitive))))]
    targets := scaled.map Prod.fst }

/-- The policy of a placement group. A member that is no constituent is left out. -/
def placementPolicy (members : List MemberNodes) (group : PlacementGroup) : Policy :=
  { policyType := "tosca.policies.nfv.riftio.placement"
    properties := properties [
      ("name", some (.string group.name)),
      ("requirement", textProperty group.requirement),
      ("strategy", textProperty group.strategy)]
    targets := group.members.filterMap fun m => vnfOf? members m.member }

/-- The policy of an initial primitive. -/
def primitivePolicy (primitive : ConfigPrimitive) : Policy :=
  let parameters := primitive.parameters.map fun p =>
    (p.name, (textProperty p.value).getD .null)
  { policyType := "tosca.policies.riftio.InitialConfigPrimitive"
    properties := properties [
      ("name", some (.string primitive.name)),
      ("seq", some (wordValue primitive.seq)),
      ("user_defined_script", textProperty primitive.script),
      ("parameter", mappingProperty (collected parameters))] }

/-! ## Templates -/

/-- The metadata of a template. -/
def metadataOf (id : String) (name vendor version : Option String) : Value.Entries :=
  properties [
    ("ID", some (.string id)),
    ("name", textProperty name),
    ("vendor", textProperty vendor),
    ("version", textProperty version)]

/-- The parts of a service with the names of their nodes and policies. -/
structure Layout where
  links : NamedLinks
  members : List MemberNodes
  graphs : List GraphNodes
  scaling : List (String × ScalingGroup)
  placements : List (String × PlacementGroup)
  primitives : List (String × ConfigPrimitive)
deriving DecidableEq, Repr

/-- Name the nodes of a service: links, constituents, then graphs. The names of policies are apart
from those of nodes. -/
def layoutOf (set : DescriptorSet) (nsd : Nsd) : Except TranslationError Layout := do
  let (linkNames, used) := allocate [] (nsd.vlds.map fun vld => labelOf vld.name vld.id)
  let (members, used) ← allMemberNodes set used nsd.constituents
  let (scalingNames, policies) := allocate [] (nsd.scalingGroups.map (·.name))
  let (placementNames, policies) := allocate policies (nsd.placementGroups.map (·.name))
  let (primitiveNames, _) := allocate policies (nsd.primitives.map (·.name))
  return { links := linkNames.zip nsd.vlds
           members := members
           graphs := allGraphNodes used nsd.graphs
           scaling := scalingNames.zip nsd.scalingGroups
           placements := placementNames.zip nsd.placementGroups
           primitives := primitiveNames.zip nsd.primitives }

namespace Layout

/-- The nodes of a layout in document order. -/
def nodes (layout : Layout) (inService : Bool) : List (String × NodeTemplate) :=
  layout.links.map (fun (name, vld) => (name, linkNode vld)) ++
    layout.members.flatMap (·.nodes inService layout.links) ++
    layout.graphs.flatMap fun g =>
      g.paths.map fun (name, path) => (name, pathNode layout.members path)

/-- The groups of a layout. -/
def groups (layout : Layout) : List (String × Group) :=
  layout.graphs.map fun g => (g.group, graphGroup g.graph (g.paths.map Prod.fst))

/-- The policies of a layout with their names. -/
def policies (layout : Layout) : List (String × Policy) :=
  layout.scaling.map (fun (name, group) => (name, scalingPolicy layout.members group)) ++
    layout.placements.map (fun (name, group) => (name, placementPolicy layout.members group)) ++
    layout.primitives.map (fun (name, primitive) => (name, primitivePolicy primitive))

/-- The template of a layout. Functions without a service have no service name and no member
indices. -/
def template (layout : Layout) (nsd : Nsd) (inService : Bool) : Template :=
  { version := profileVersion
    description := nsd.description
    metadata :=
      metadataOf nsd.id (if inService then some nsd.name else none) nsd.vendor nsd.version
    topology := {
      nodes := .ofList (layout.nodes inService)
      groups := .ofList layout.groups
      policies := layout.policies.map fun (name, policy) => .single name policy } }

end Layout

/-- The service that functions without one stand for: each function is a constituent, counted from
one, and the first one gives the head. -/
def looseService (first : Vnfd) (vnfds : List Vnfd) : Nsd :=
  { id := first.id
    name := first.id
    vendor := first.vendor
    description := first.description
    version := first.version
    constituents := vnfds.zipIdx.map fun (vnfd, n) =>
      { index := UInt32.ofNat (n + 1), vnfd := vnfd.id } }

/-- The service that a set of descriptors is written as, and whether it is in the set. -/
def describedService (set : DescriptorSet) : Except TranslationError (Nsd × Bool) :=
  match set.nsds, set.vnfds with
  | [nsd], _ => .ok (nsd, true)
  | [], first :: rest => .ok (looseService first (first :: rest), false)
  | [], [] => .error (.invalidInput .empty)
  | nsds, _ => .error (.invalidInput (.severalNsds nsds.length))

/-- The template of a set of descriptors. -/
def templateOf (set : DescriptorSet) : Except TranslationError Template := do
  let (nsd, inService) ← describedService set
  let layout ← layoutOf set nsd
  return layout.template nsd inService

end NfvCatalog.Translation
