import NfvCatalog.Document.Value

/-! # Descriptors of virtual network functions

A VNFD describes one network function: the virtual machines (VDUs) it is made of, its external
connection points, and the internal links between its machines.
-/

namespace NfvCatalog

/-- The type of a connection point that names none. -/
def defaultPointType : String := "VPORT"

/-- The type of a virtual interface that names none. -/
def defaultInterfaceType : String := "VIRTIO"

/-- An external connection point of a VNF. -/
structure ConnectionPoint where
  name : String
  pointType : String := defaultPointType
deriving DecidableEq, Repr, Inhabited

/-- Where the dashboard of a VNF is served. -/
structure Dashboard where
  path : Option String := none
  port : Option UInt16 := none
  https : Option Bool := none
deriving DecidableEq, Repr, Inhabited

/-- Where a VNF is managed: at one of its machines or connection points. -/
structure MgmtInterface where
  vdu : Option String := none
  cp : Option String := none
  port : Option UInt16 := none
  dashboard : Option Dashboard := none
deriving DecidableEq, Repr, Inhabited

/-- The size of a virtual machine. -/
structure VmFlavor where
  vcpus : Option UInt32 := none
  memoryMb : Option UInt64 := none
  storageGb : Option UInt64 := none
deriving DecidableEq, Repr, Inhabited

/-- Placement of a virtual machine on its host's processors and memory pages. -/
structure GuestEpa where
  cpuPinning : Option String := none
  mempageSize : Option String := none
deriving DecidableEq, Repr, Inhabited

/-- Whether nothing is said about placement. -/
def GuestEpa.isEmpty (epa : GuestEpa) : Bool := epa.cpuPinning.isNone && epa.mempageSize.isNone

/-- A network interface of a machine, attached to a connection point of its VNF. -/
structure ExternalInterface where
  name : String
  pointRef : String
  virtualType : Option String := none
deriving DecidableEq, Repr, Inhabited

/-- A connection point inside a VNF. -/
structure InternalPoint where
  id : String
  name : Option String := none
  pointType : String := defaultPointType
deriving DecidableEq, Repr, Inhabited

/-- A virtual machine of a VNF. -/
structure Vdu where
  id : String
  name : String := ""
  description : Option String := none
  count : Option UInt32 := none
  flavor : Option VmFlavor := none
  epa : Option GuestEpa := none
  image : Option String := none
  imageChecksum : Option String := none
  cloudInit : Option String := none
  interfaces : List ExternalInterface := []
  internalPoints : List InternalPoint := []
deriving DecidableEq, Repr, Inhabited

/-- A link between internal connection points of a VNF. -/
structure InternalVld where
  id : String
  name : String := ""
  shortName : Option String := none
  linkType : Option String := none
  pointRefs : List String := []
deriving DecidableEq, Repr, Inhabited

/-- A descriptor of a virtual network function. -/
structure Vnfd where
  id : String
  name : String := ""
  shortName : Option String := none
  vendor : Option String := none
  description : Option String := none
  version : Option String := none
  logo : Option String := none
  mgmt : Option MgmtInterface := none
  points : List ConnectionPoint := []
  vdus : List Vdu := []
  internalVlds : List InternalVld := []
  /-- Configuration primitives, carried through untouched. -/
  configuration : Option Value := none
deriving DecidableEq, Repr, Inhabited

namespace Vnfd

/-- The first machine with an id. -/
def vdu? (vnfd : Vnfd) (id : String) : Option Vdu := vnfd.vdus.find? (·.id = id)

/-- The first connection point with a name. -/
def point? (vnfd : Vnfd) (name : String) : Option ConnectionPoint :=
  vnfd.points.find? (·.name = name)

/-- The name to show: the id when there is no name. -/
def displayName (vnfd : Vnfd) : String := if vnfd.name.isEmpty then vnfd.id else vnfd.name

end Vnfd

end NfvCatalog
