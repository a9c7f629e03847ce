import NfvCatalog.Document.Record
import NfvCatalog.Document.Json
import NfvCatalog.Descriptor.Vnfd

/-! # VNFDs as documents

Reading a VNFD from a node and writing it as a value. A field that is unset, and a list that is
empty, is not written.
-/

namespace NfvCatalog

/-- A text that a document may have written as a number: any other value stands as its compact
text. -/
def Record.looseText (record : Record) (name : String) : Except Fault (Option String) := do
  match ← record.optional name Node.asOpaque with
  | none | some .null => return none
  | some (.string s) => return some s
  | some other => return some (Json.compact other)

namespace ConnectionPoint

/-- The fields of a connection point. -/
def shape : RecordShape := { names := ["name", "type"] }

/-- Read a connection point. -/
def ofNode (positional : Bool) (node : Node) : Except Fault ConnectionPoint := do
  let r ← Record.ofNode positional shape node
  return { name := ← r.required "name" Node.asText
           pointType := ← r.withDefault "type" defaultPointType Node.asText }

/-- Write a connection point. -/
def toValue (point : ConnectionPoint) : Value :=
  Value.ofWritten [.text "name" point.name, .text "type" point.pointType]

end ConnectionPoint

namespace Dashboard

/-- The fields of a dashboard. -/
def shape : RecordShape := { names := ["path", "port", "https"] }

/-- Read a dashboard. -/
def ofNode (positional : Bool) (node : Node) : Except Fault Dashboard := do
  let r ← Record.ofNode positional shape node
  return { path := ← r.optional "path" Node.asText
           port := ← r.optional "port" Node.asUInt16
           https := ← r.optional "https" Node.asBool }

/-- Write a dashboard. -/
def toValue (dashboard : Dashboard) : Value :=
  Value.ofWritten [
    .optionalText "path" dashboard.path,
    .optionalNatural "port" (dashboard.port.map (·.toNat)),
    .optionalBool "https" dashboard.https]

end Dashboard

namespace MgmtInterface

/-- The fields of a management interface. -/
def shape : RecordShape :=
  { names := ["vdu-id", "cp", "port", "dashboard-params"]
    inner := [("dashboard-params", Dashboard.shape.extent)] }

/-- Read a management interface. -/
def ofNode (positional : Bool) (node : Node) : Except Fault MgmtInterface := do
  let r ← Record.ofNode positional shape node
  return { vdu := ← r.optional "vdu-id" Node.asText
           cp := ← r.optional "cp" Node.asText
           port := ← r.optional "port" Node.asUInt16
           dashboard := ← r.optional "dashboard-params" (Dashboard.ofNode positional) }

/-- Write a management interface. -/
def toValue (mgmt : MgmtInterface) : Value :=
  Value.ofWritten [
    .optionalText "vdu-id" mgmt.vdu,
    .optionalText "cp" mgmt.cp,
    .optionalNatural "port" (mgmt.port.map (·.toNat)),
    .optional "dashboard-params" (mgmt.dashboard.map Dashboard.toValue)]

end MgmtInterface

namespace VmFlavor

/-- The fields of a flavor. -/
def shape : RecordShape := { names := ["vcpu-count", "memory-mb", "storage-gb"] }

/-- Read a flavor. -/
def ofNode (positional : Bool) (node : Node) : Except Fault VmFlavor := do
  let r ← Record.ofNode positional shape node
  return { vcpus := ← r.optional "vcpu-count" Node.asUInt32
           memoryMb := ← r.optional "memory-mb" Node.asUInt64
           storageGb := ← r.optional "storage-gb" Node.asUInt64 }

/-- Write a flavor. -/
def toValue (flavor : VmFlavor) : Value :=
  Value.ofWritten [
    .optionalNatural "vcpu-count" (flavor.vcpus.map (·.toNat)),
    .optionalNatural "memory-mb" (flavor.memoryMb.map (·.toNat)),
    .optionalNatural "storage-gb" (flavor.storageGb.map (·.toNat))]

end VmFlavor

namespace GuestEpa

/-- The fields of placement settings. -/
def shape : RecordShape := { names := ["cpu-pinning-policy", "mempage-size"] }

/-- Read placement settings. -/
def ofNode (positional : Bool) (node : Node) : Except Fault GuestEpa := do
  let r ← Record.ofNode positional shape node
  return { cpuPinning := ← r.optional "cpu-pinning-policy" Node.asText
           mempageSize := ← r.optional "mempage-size" Node.asText }

/-- Write placement settings. -/
def toValue (epa : GuestEpa) : Value :=
  Value.ofWritten [
    .optionalText "cpu-pinning-policy" epa.cpuPinning,
    .optionalText "mempage-size" epa.mempageSize]

end GuestEpa

namespace ExternalInterface

/-- The fields of the virtual interface inside an external interface. -/
def virtualShape : RecordShape := { names := ["type"] }

/-- The fields of an external interface. -/
def shape : RecordShape :=
  { names := ["name", "vnfd-connection-point-ref", "virtual-interface"]
    inner := [("virtual-interface", virtualShape.extent)] }

/-- Read the type of a virtual interface. -/
def virtualTypeOfNode (positional : Bool) (node : Node) : Except Fault String := do
  let r ← Record.ofNode positional virtualShape node
  r.withDefault "type" defaultInterfaceType Node.asText

/-- Read an external interface. -/
def ofNode (positional : Bool) (node : Node) : Except Fault ExternalInterface := do
  let r ← Record.ofNode positional shape node
  return { name := ← r.required "name" Node.asText
           pointRef := ← r.required "vnfd-connection-point-ref" Node.asText
           virtualType := ← r.optional "virtual-interface" (virtualTypeOfNode positional) }

/-- Write an external interface. -/
def toValue (interface : ExternalInterface) : Value :=
  Value.ofWritten [
    .text "name" interface.name,
    .text "vnfd-connection-point-ref" interface.pointRef,
    .optional "virtual-interface"
      (interface.virtualType.map fun t => .ofFields [("type", .string t)])]

end ExternalInterface

namespace InternalPoint

/-- The fields of an internal connection point. -/
def shape : RecordShape := { names := ["id", "name", "type"] }

/-- Read an internal connection point. -/
def ofNode (positional : Bool) (node : Node) : Except Fault InternalPoint := do
  let r ← Record.ofNode positional shape node
  return { id := ← r.required "id" Node.asText
           name := ← r.optional "name" Node.asText
           pointType := ← r.withDefault "type" defaultPointType Node.asText }

/-- Write an internal connection point. -/
def toValue (point : InternalPoint) : Value :=
  Value.ofWritten [
    .text "id" point.id, .optionalText "name" point.name, .text "type" point.pointType]

end InternalPoint

namespace Vdu

/-- The fields of a machine. -/
def shape : RecordShape :=
  { names := ["id", "name", "description", "count", "vm-flavor", "guest-epa", "image",
      "image-checksum", "cloud-init-file", "external-interface", "internal-connection-point"]
    inner := [
      ("vm-flavor", VmFlavor.shape.extent),
      ("guest-epa", GuestEpa.shape.extent),
      ("external-interface", .items ExternalInterface.shape.extent),
      ("internal-connection-point", .items InternalPoint.shape.extent)] }

/-- Read a machine. -/
def ofNode (positional : Bool) (node : Node) : Except Fault Vdu := do
  let r ← Record.ofNode positional shape node
  return { id := ← r.required "id" Node.asText
           name := ← r.withDefault "name" "" Node.asText
           description := ← r.optional "description" Node.asText
           count := ← r.optional "count" Node.asUInt32
           flavor := ← r.optional "vm-flavor" (VmFlavor.ofNode positional)
           epa := ← r.optional "guest-epa" (GuestEpa.ofNode positional)
           image := ← r.optional "image" Node.asText
           imageChecksum := ← r.optional "image-checksum" Node.asText
           cloudInit := ← r.optional "cloud-init-file" Node.asText
           interfaces := ← r.list "external-interface" (ExternalInterface.ofNode positional)
           internalPoints :=
            ← r.list "internal-connection-point" (InternalPoint.ofNode positional) }

/-- Write a machine. -/
def toValue (vdu : Vdu) : Value :=
  Value.ofWritten [
    .text "id" vdu.id,
    .text "name" vdu.name,
    .optionalText "description" vdu.description,
    .optionalNatural "count" (vdu.count.map (·.toNat)),
    .optional "vm-flavor" (vdu.flavor.map VmFlavor.toValue),
    .optional "guest-epa" (vdu.epa.map GuestEpa.toValue),
    .optionalText "image" vdu.image,
    .optionalText "image-checksum" vdu.imageChecksum,
    .optionalText "cloud-init-file" vdu.cloudInit,
    .list "external-interface" ExternalInterface.toValue vdu.interfaces,
    .list "internal-connection-point" InternalPoint.toValue vdu.internalPoints]

end Vdu

namespace InternalVld

/-- The fields of a reference to an internal connection point. -/
def refShape : RecordShape := { names := ["id-ref"] }

/-- The fields of an internal link. -/
def shape : RecordShape :=
  { names := ["id", "name", "short-name", "type", "internal-connection-point"]
    inner := [("internal-connection-point", .items refShape.extent)] }

/-- Read a reference to an internal connection point. -/
def refOfNode (positional : Bool) (node : Node) : Except Fault String := do
  let r ← Record.ofNode positional refShape node
  r.required "id-ref" Node.asText

/-- Write a reference to an internal connection point. -/
def refToValue (ref : String) : Value := .ofFields [("id-ref", .string ref)]

/-- Read an internal link. -/
def ofNode (positional : Bool) (node : Node) : Except Fault InternalVld := do
  let r ← Record.ofNode positional shape node
  return { id := ← r.required "id" Node.asText
           name := ← r.withDefault "name" "" Node.asText
           shortName := ← r.optional "short-name" Node.asText
           linkType := ← r.optional "type" Node.asText
           pointRefs := ← r.list "internal-connection-point" (refOfNode positional) }

/-- Write an internal link. -/
def toValue (vld : InternalVld) : Value :=
  Value.ofWritten [
    .text "id" vld.id,
    .text "name" vld.name,
    .optionalText "short-name" vld.shortName,
    .optionalText "type" vld.linkType,
    .list "internal-connection-point" refToValue vld.pointRefs]

end InternalVld

namespace Vnfd

/-- The fields of a VNFD. -/
def shape : RecordShape :=
  { names := ["id", "name", "short-name", "vendor", "description", "version", "logo",
      "mgmt-interface", "connection-point", "vdu", "internal-vld", "vnf-configuration"]
    inner := [
      ("mgmt-interface", MgmtInterface.shape.extent),
      ("connection-point", .items ConnectionPoint.shape.extent),
      ("vdu", .items Vdu.shape.extent),
      ("internal-vld", .items InternalVld.shape.extent)] }

/-- Read a VNFD. -/
def ofNode (positional : Bool) (node : Node) : Except Fault Vnfd := do
  let r ← Record.ofNode positional shape node
  return { id := ← r.required "id" Node.asText
           name := ← r.withDefault "name" "" Node.asText
           shortName := ← r.optional "short-name" Node.asText
           vendor := ← r.optional "vendor" Node.asText
           description := ← r.optional "description" Node.asText
           version := ← r.looseText "version"
           logo := ← r.optional "logo" Node.asText
           mgmt := ← r.optional "mgmt-interface" (MgmtInterface.ofNode positional)
           points := ← r.list "connection-point" (ConnectionPoint.ofNode positional)
           vdus := ← r.list "vdu" (Vdu.ofNode positional)
           internalVlds := ← r.list "internal-vld" (InternalVld.ofNode positional)
           configuration := ← r.optional "vnf-configuration" Node.asOpaque }

/-- Write a VNFD. -/
def toValue (vnfd : Vnfd) : Value :=
  Value.ofWritten [
    .text "id" vnfd.id,
    .text "name" vnfd.name,
    .optionalText "short-name" vnfd.shortName,
    .optionalText "vendor" vnfd.vendor,
    .optionalText "description" vnfd.description,
    .optionalText "version" vnfd.version,
    .optionalText "logo" vnfd.logo,
    .optional "mgmt-interface" (vnfd.mgmt.map MgmtInterface.toValue),
    .list "connection-point" ConnectionPoint.toValue vnfd.points,
    .list "vdu" Vdu.toValue vnfd.vdus,
    .list "internal-vld" InternalVld.toValue vnfd.internalVlds,
    .optional "vnf-configuration" (vnfd.configuration)]

end Vnfd

end NfvCatalog
