import NfvCatalog.Descriptor.Vnfd
import NfvCatalog.Text.Keyed

/-! # Descriptors of network services

An NSD composes a service of VNFs. Each constituent has a member index, by which links, scaling
groups, placement groups and forwarding paths refer to it.
-/

namespace NfvCatalog

/-- A VNF in a service. -/
structure ConstituentVnfd where
  index : UInt32
  vnfd : String
  startByDefault : Option Bool := none
deriving DecidableEq, Repr, Inhabited

/-- A physical network behind a link. -/
structure ProviderNetwork where
  physicalNetwork : Option String := none
  overlayType : Option String := none
  segmentation : Option UInt32 := none
deriving DecidableEq, Repr, Inhabited

/-- A connection point of a constituent. -/
structure PointRef where
  member : UInt32
  vnfd : String
  point : String
deriving DecidableEq, Repr, Inhabited

/-- A link between connection points of constituents. -/
structure Vld where
  id : String
  name : String := ""
  shortName : Option String := none
  description : Option String := none
  vendor : Option String := none
  linkType : Option String := none
  vimNetwork : Option String := none
  provider : Option ProviderNetwork := none
  pointRefs : List PointRef := []
deriving DecidableEq, Repr, Inhabited

/-- A constituent that is scaled with a group, and how many are added at a time. -/
structure ScalingMember where
  member : UInt32
  count : UInt32 := 1
deriving DecidableEq, Repr, Inhabited

/-- A primitive that runs at a step of scaling. -/
structure ScalingAction where
  trigger : String
  primitive : String
deriving DecidableEq, Repr, Inhabited

/-- Constituents that are scaled together. -/
structure ScalingGroup where
  name : String
  minInstances : Option UInt32 := none
  maxInstances : Option UInt32 := none
  members : List ScalingMember := []
  actions : List ScalingAction := []
deriving DecidableEq, Repr, Inhabited

/-- A constituent of a placement group. -/
structure PlacementMember where
  member : UInt32
  vnfd : String
deriving DecidableEq, Repr, Inhabited

/-- Constituents that are placed together or apart. -/
structure PlacementGroup where
  name : String
  requirement : Option String := none
  strategy : Option String := none
  members : List PlacementMember := []
deriving DecidableEq, Repr, Inhabited

/-- A parameter of a primitive. -/
structure PrimitiveParameter where
  name : String
  value : Option String := none
deriving DecidableEq, Repr, Inhabited

/-- A primitive that runs once, when the service starts. -/
structure ConfigPrimitive where
  seq : UInt32
  name : String
  script : Option String := none
  parameters : List PrimitiveParameter := []
deriving DecidableEq, Repr, Inhabited

/-- A hop of a rendered service path. -/
structure PathHop where
  member : UInt32
  order : UInt32
  vnfd : String
  point : String
deriving DecidableEq, Repr, Inhabited

/-- A path of traffic through connection points. -/
structure ServicePath where
  id : String
  name : String := ""
  hops : List PathHop := []
deriving DecidableEq, Repr, Inhabited

/-- A VNF forwarding graph. -/
structure ForwardingGraph where
  id : String
  name : String := ""
  vendor : Option String := none
  version : Option String := none
  paths : List ServicePath := []
deriving DecidableEq, Repr, Inhabited

/-- A parameter that the user of a service may set. -/
structure InputParameter where
  xpath : String
  label : Option String := none
  default : Option String := none
deriving DecidableEq, Repr, Inhabited

/-- A descriptor of a network service. -/
structure Nsd where
  id : String
  name : String := ""
  shortName : Option String := none
  vendor : Option String := none
  description : Option String := none
  version : Option String := none
  logo : Option String := none
  constituents : List ConstituentVnfd := []
  vlds : List Vld := []
  scalingGroups : List ScalingGroup := []
  placementGroups : List PlacementGroup := []
  primitives : List ConfigPrimitive := []
  graphs : List ForwardingGraph := []
  inputs : List InputParameter := []
deriving DecidableEq, Repr, Inhabited

namespace Nsd

/-- The first constituent with a member index. -/
def constituent? (nsd : Nsd) (index : UInt32) : Option ConstituentVnfd :=
  nsd.constituents.find? (·.index = index)

/-- The name to show: the id when there is no name. -/
def displayName (nsd : Nsd) : String := if nsd.name.isEmpty then nsd.id else nsd.name

/-- One more than the greatest member index; one when there is no constituent. The sum is taken in
32 bits. -/
def nextMemberIndex (nsd : Nsd) : UInt32 :=
  match nsd.constituents.map (·.index) with
  | [] => 1
  | first :: rest => rest.foldl max first + 1

end Nsd

namespace ConfigPrimitive

/-- The parameters by name, sorted; an unset value is the empty text. -/
def settings (primitive : ConfigPrimitive) : List (String × String) :=
  Keyed.ofList (primitive.parameters.map fun p => (p.name, p.value.getD ""))

end ConfigPrimitive

end NfvCatalog
