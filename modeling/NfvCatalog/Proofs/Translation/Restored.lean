import NfvCatalog.Proofs.Lists.Keyed
import NfvCatalog.Proofs.Tosca.References
import NfvCatalog.Translation.Machine
import NfvCatalog.Translation.Profile

/-! # What a template keeps of descriptors

The descriptors that come back when descriptors are written as a template and the template is
translated. Nothing here speaks of nodes: links, scaling groups and paths refer to constituents
directly. A constituent stands with the descriptor that was supplied for it.
-/

namespace NfvCatalog

/-- Every interface of a descriptor, with the machine that has it. -/
def Vnfd.interfaces (vnfd : Vnfd) : List (Vdu × ExternalInterface) :=
  vnfd.vdus.flatMap fun vdu => vdu.interfaces.map fun interface => (vdu, interface)

theorem Vnfd.mem_interfaces {vnfd : Vnfd} {entry : Vdu × ExternalInterface} :
    entry ∈ vnfd.interfaces ↔ entry.1 ∈ vnfd.vdus ∧ entry.2 ∈ entry.1.interfaces := by
  obtain ⟨vdu, interface⟩ := entry
  simp [Vnfd.interfaces]

end NfvCatalog

namespace NfvCatalog.Translation

open Tosca

/-- A constituent of a service with its descriptor. -/
abbrev Supplied := ConstituentVnfd × Vnfd

/-- Every constituent of a service with its descriptor, if all of them are supplied. -/
def supplied? (set : DescriptorSet) : List ConstituentVnfd → Option (List Supplied)
  | [] => some []
  | member :: rest => do
    let vnfd ← set.vnfd? member.vnfd
    return (member, vnfd) :: (← supplied? set rest)

/-- What says nothing is left out. -/
theorem filter_ne_some {α : Type} [DecidableEq α] (value nothing : α) :
    (some value).filter (· ≠ nothing) = if value = nothing then none else some value := by
  by_cases same : value = nothing <;> simp [same]

/-! ## Machines -/

/-- A flavor in which nothing is set is no flavor. -/
def restoredFlavor (flavor : Option VmFlavor) : Option VmFlavor := flavor.filter (· ≠ { })

/-- Placement is kept in capital letters, unless nothing is said about it. -/
def restoredEpa (epa : Option GuestEpa) : Option GuestEpa :=
  (epa.map fun epa =>
    { cpuPinning := epa.cpuPinning.map Text.asciiUpper
      mempageSize := epa.mempageSize.map Text.asciiUpper : GuestEpa }).filter (· ≠ { })

/-- A machine without its interfaces. Of a file only the last component is kept, of a checksum only
that of an image. -/
def restoredVdu (vdu : Vdu) : Vdu :=
  { id := vdu.id
    name := vdu.name
    description := vdu.description
    count := vdu.count
    flavor := restoredFlavor vdu.flavor
    epa := restoredEpa vdu.epa
    image := vdu.image.map fun file => baseName ("images/" ++ file)
    imageChecksum := vdu.image.bind fun _ => vdu.imageChecksum
    cloudInit := vdu.cloudInit.map fun file => baseName ("cloud_init/" ++ file) }

/-- An interface with its type in capital letters. -/
def restoredInterface (interface : ExternalInterface) : ExternalInterface :=
  { name := interface.name
    pointRef := interface.pointRef
    virtualType :=
      some (Text.asciiUpper (interface.virtualType.getD defaultInterfaceType)) }

/-! ## Functions -/

/-- Give machines their interfaces: one named by an id goes to the first machine with the id. -/
def withInterfaces (named : List (String × ExternalInterface)) : List Vdu → List Vdu
  | [] => []
  | vdu :: rest =>
    { vdu with
      interfaces := vdu.interfaces ++ (named.filter (·.1 = vdu.id)).map Prod.snd } ::
      withInterfaces (named.filter (·.1 ≠ vdu.id)) rest

/-- The type of a connection point: that of the first declared point of its name. -/
def pointTypeOf (vnfd : Vnfd) (point : String) : String :=
  ((vnfd.point? point).map (·.pointType)).getD defaultPointType

/-- One connection point for every interface, in the order of interfaces. -/
def restoredPoints (vnfd : Vnfd) : List ConnectionPoint :=
  vnfd.interfaces.map fun (_, interface) =>
    { name := interface.pointRef, pointType := pointTypeOf vnfd interface.pointRef }

/-- A management interface without the machine that is none of the function's. One that says nothing
gives way to the only machine of a function. -/
def restoredMgmt (vnfd : Vnfd) : Option MgmtInterface :=
  ((vnfd.mgmt.map fun mgmt =>
      { mgmt with vdu := mgmt.vdu.filter fun id => (vnfd.vdu? id).isSome }).filter (· ≠ { })).or
    (match vnfd.vdus with
      | [vdu] => some { vdu := some vdu.id }
      | _ => none)

/-- The descriptor of a function. -/
def restoredVnfd (vnfd : Vnfd) : Vnfd :=
  { id := vnfd.id
    name := vnfd.name
    shortName := vnfd.shortName
    vendor := vnfd.vendor
    description := vnfd.description
    version := vnfd.version
    logo := vnfd.logo.map fun file => baseName ("icons/" ++ file)
    mgmt := restoredMgmt vnfd
    points := restoredPoints vnfd
    vdus := withInterfaces
      (vnfd.interfaces.map fun (vdu, interface) => (vdu.id, restoredInterface interface))
      (vnfd.vdus.map restoredVdu)
    configuration := vnfd.configuration.bind fun value => value.toOpaque.toOption }

/-- One descriptor for each id, that of the first constituent with it. -/
def restoredVnfds (members : List Supplied) : List Vnfd :=
  DescriptorSet.appendNew Vnfd.id [] (members.map fun m => restoredVnfd m.2)

/-! ## Links -/

/-- The physical network of a link, unless nothing is said about it. -/
def restoredProvider (provider : Option ProviderNetwork) : Option ProviderNetwork :=
  (provider.map fun provider =>
    { provider with overlayType := provider.overlayType.map Text.asciiUpper }).filter (· ≠ { })

/-- How often a link refers to a connection point of a member. -/
def refCount (vld : Vld) (member : UInt32) (point : String) : Nat :=
  (vld.pointRefs.filter fun ref => ref.member = member ∧ ref.point = point).length

/-- The references of a link: each as often as there are interfaces on its connection point. -/
def restoredRefs (members : List Supplied) (vld : Vld) : List PointRef :=
  members.flatMap fun (member, vnfd) =>
    vnfd.interfaces.flatMap fun (_, interface) =>
      List.replicate (refCount vld member.index interface.pointRef)
        { member := member.index, vnfd := vnfd.id, point := interface.pointRef }

/-- The head of a link. -/
def restoredLink (vld : Vld) : Vld :=
  { id := vld.id
    name := vld.name
    shortName := vld.shortName
    description := vld.description
    vendor := vld.vendor
    linkType := some (Text.asciiUpper (vld.linkType.getD "ELAN"))
    vimNetwork := vld.vimNetwork
    provider := restoredProvider vld.provider }

/-- A link with its references. -/
def restoredVld (members : List Supplied) (vld : Vld) : Vld :=
  { restoredLink vld with pointRefs := restoredRefs members vld }

/-! ## Policies -/

/-- The constituent with a member index. -/
def member? (members : List Supplied) (index : UInt32) : Option Supplied :=
  members.find? (·.1.index = index)

/-- A scaling group. A member that is no constituent is left out; of equal members, and of actions
on one trigger, the last counts. -/
def restoredScaling (members : List Supplied) (group : ScalingGroup) : ScalingGroup :=
  { group with
    members := latest ScalingMember.member
      (group.members.filter fun m => (member? members m.member).isSome)
    actions := latest ScalingAction.trigger group.actions }

/-- A placement group. A member that is no constituent is left out. -/
def restoredPlacement (members : List Supplied) (group : PlacementGroup) : PlacementGroup :=
  { name := group.name
    requirement := group.requirement
    strategy := group.strategy.map Text.asciiUpper
    members := group.members.filterMap fun m =>
      (member? members m.member).map fun supplied =>
        { member := m.member, vnfd := supplied.2.id } }

/-- An initial primitive. Of parameters with one name the last counts. -/
def restoredPrimitive (primitive : ConfigPrimitive) : ConfigPrimitive :=
  { primitive with parameters := latest PrimitiveParameter.name primitive.parameters }

/-! ## Forwarding graphs -/

/-- Whether a function has an interface on a connection point. -/
def hasInterfaceOn (vnfd : Vnfd) (point : String) : Bool :=
  vnfd.interfaces.any fun entry => entry.2.pointRef = point

/-- The descriptor of the constituent that a hop goes through, if the hop is at an interface. -/
def hopVnfd? (members : List Supplied) (hop : PathHop) : Option String :=
  (member? members hop.member).bind fun supplied =>
    if hasInterfaceOn supplied.2 hop.point then some supplied.2.id else none

/-- Number hops from a number on. -/
def numberedHops (order : Nat) : List PathHop → List PathHop
  | [] => []
  | hop :: rest => { hop with order := UInt32.ofNat order } :: numberedHops (order + 1) rest

/-- A path: its hops in order, numbered anew. A hop that is at no interface is left out. -/
def restoredPath (members : List Supplied) (path : ServicePath) : ServicePath :=
  let hops := path.hops.mergeSort fun a b => a.order ≤ b.order
  { path with
    hops := numberedHops 1 (hops.filterMap fun hop =>
      (hopVnfd? members hop).map fun vnfd => { hop with vnfd := vnfd }) }

/-- A forwarding graph with its paths. -/
def restoredGraph (members : List Supplied) (graph : ForwardingGraph) : ForwardingGraph :=
  { graph with paths := graph.paths.map (restoredPath members) }

/-! ## Services -/

/-- The descriptor of a service. -/
def restoredNsd (nsd : Nsd) (members : List Supplied) : Nsd :=
  { id := nsd.id
    name := nsd.name
    vendor := nsd.vendor
    description := nsd.description
    version := nsd.version
    constituents := nsd.constituents
    vlds := nsd.vlds.map (restoredVld members)
    scalingGroups := nsd.scalingGroups.map (restoredScaling members)
    placementGroups := nsd.placementGroups.map (restoredPlacement members)
    primitives := (nsd.primitives.map restoredPrimitive).mergeSort fun a b => a.seq ≤ b.seq
    graphs := nsd.graphs.map (restoredGraph members) }

/-- The descriptors of a service and its functions. -/
def restored (nsd : Nsd) (members : List Supplied) : DescriptorSet :=
  { nsds := [restoredNsd nsd members], vnfds := restoredVnfds members }

end NfvCatalog.Translation
