import NfvCatalog.Files.Path
import NfvCatalog.Translation.Draft
import NfvCatalog.Translation.Property

/-! # Machines

A VDU node becomes a machine of the VNF that claims it. Its flavor and placement come from the
capability `virtual_compute`; what that leaves open comes from the older `nfv_compute` or `host`.
-/

namespace NfvCatalog.Translation

open Tosca

/-- A text in capital letters. -/
def upperText (value : Value) : Option String := value.scalarText?.map Text.asciiUpper

/-- The name of the file that a path leads to. -/
def baseName (path : String) : String := (Path.fileName? path).getD path

/-- A value that must be read, if it is there. -/
def readOptional {α : Type} (value : Option Value) (read : Value → Except TranslationError α) :
    Except TranslationError (Option α) :=
  match value with
  | none => .ok none
  | some value => (read value).map some

/-- A value that must be read, if it is there and nothing was found before. -/
def readUnlessSet {α : Type} (found : Option α) (value : Option Value)
    (read : Value → Except TranslationError α) : Except TranslationError (Option α) :=
  match found with
  | some a => .ok (some a)
  | none => readOptional value read

/-- The flavor in the properties of `virtual_compute`. -/
def virtualFlavor (properties : Value.Entries) (entity : String) :
    Except TranslationError VmFlavor := do
  let vcpus ← readOptional (properties.lookup? "virtual_cpu.num_virtual_cpu")
    (countOf · entity "num_virtual_cpu")
  let memory ← readOptional (properties.lookup? "virtual_memory.virtual_mem_size")
    (sizeIn · .mb entity "virtual_mem_size")
  let storage ← readOptional (properties.lookup? "virtual_storage.size_of_storage")
    (sizeIn · .gb entity "size_of_storage")
  return { vcpus := vcpus, memoryMb := memory, storageGb := storage }

/-- The placement in the properties of `virtual_compute`. -/
def virtualEpa (properties : Value.Entries) : GuestEpa :=
  { cpuPinning := (properties.lookup? "virtual_cpu.cpu_pinning_policy").bind upperText
    mempageSize := (properties.lookup? "virtual_memory.mem_page_size").bind upperText }

/-- The flavor completed from an older capability. -/
def hostFlavor (flavor : VmFlavor) (properties : Value.Entries) (entity : String) :
    Except TranslationError VmFlavor := do
  let vcpus ← readUnlessSet flavor.vcpus (properties.get? "num_cpus") (countOf · entity "num_cpus")
  let memory ← readUnlessSet flavor.memoryMb (properties.get? "mem_size")
    (sizeIn · .mb entity "mem_size")
  let storage ← readUnlessSet flavor.storageGb (properties.get? "disk_size")
    (sizeIn · .gb entity "disk_size")
  return { vcpus := vcpus, memoryMb := memory, storageGb := storage }

/-- The pinning policy that a processor affinity stands for. -/
def pinningOf (affinity : String) : String :=
  let lower := Text.asciiLower affinity
  if lower = "dedicated" then "DEDICATED"
  else if lower = "shared" then "SHARED"
  else "ANY"

/-- The placement completed from an older capability. -/
def hostEpa (epa : GuestEpa) (properties : Value.Entries) : GuestEpa :=
  { cpuPinning := epa.cpuPinning.or
      (((properties.lookup? "cpu_allocation.cpu_affinity").bind Value.scalarText?).map pinningOf)
    mempageSize := epa.mempageSize.or ((properties.text? "mem_page_size").map Text.asciiUpper) }

/-- The flavor and the placement of a node, each only if something is said about it. -/
def computeOf (entity : String) (node : NodeTemplate) :
    Except TranslationError (Option VmFlavor × Option GuestEpa) := do
  let (flavor, epa) ← match node.capabilities.get? "virtual_compute" with
    | none => .ok (({ } : VmFlavor), ({ } : GuestEpa))
    | some capability => do
      let flavor ← virtualFlavor capability.properties entity
      .ok (flavor, virtualEpa capability.properties)
  let older := (node.capabilities.get? "nfv_compute").or (node.capabilities.get? "host")
  let (flavor, epa) ← match older with
    | none => .ok (flavor, epa)
    | some capability => do
      let flavor ← hostFlavor flavor capability.properties entity
      .ok (flavor, hostEpa epa capability.properties)
  return (if flavor = { } then none else some flavor, if epa.isEmpty then none else some epa)

/-- The type prefix of image artifacts. -/
def imageType : String := "tosca.artifacts.Deployment.Image"

/-- The type of artifacts with start-up data. -/
def cloudInitType : String := "tosca.artifacts.Deployment.CloudInit"

/-- What an artifact of a machine is for: told by its type, or by its name if it has none. -/
def artifactKind? (name : String) (artifact : Tosca.Artifact) : Option ArtifactKind :=
  match artifact.artifactType? with
  | some artifactType =>
    if Text.startsWith artifactType imageType then some .image
    else if artifactType = cloudInitType then some .cloudInit
    else none
  | none =>
    if name = "image" then some .image
    else if name = "cloud_init" then some .cloudInit
    else none

/-- A machine with the file of an artifact. What is set already stays. -/
def withArtifact (vdu : Vdu) (kind : ArtifactKind) (artifact : Tosca.Artifact) : Vdu :=
  match kind with
  | .image =>
    { vdu with
      image := vdu.image.or (some (baseName artifact.file))
      imageChecksum := vdu.imageChecksum.or artifact.checksum? }
  | _ => { vdu with cloudInit := vdu.cloudInit.or (some (baseName artifact.file)) }

/-- The artifacts of a node that matter, with their kinds. -/
def machineArtifacts (node : NodeTemplate) : List (ArtifactKind × Tosca.Artifact) :=
  node.artifacts.entries.filterMap fun entry =>
    (artifactKind? entry.1 entry.2).map fun kind => (kind, entry.2)

/-- The machine of a node before its compute requirements and artifacts. -/
def plainVdu (id : String) (count : Option UInt32) (entity : String) (node : NodeTemplate) : Vdu :=
  { id := id
    name := nameOf node.properties entity
    description := descriptionOf node
    count := count
    image := node.properties.text? "image"
    imageChecksum := node.properties.text? "image_checksum"
    cloudInit := node.properties.text? "cloud_init_file" }

/-- Add a VDU node. -/
def addMachine (s : Surroundings) (entity : String) (node : NodeTemplate) (d : Drafts) :
    Except TranslationError Drafts := do
  let (id, d) := d.idOf s node.properties
  let count ← wholeProperty? node.properties entity "count"
  let (flavor, epa) ← computeOf entity node
  let artifacts := machineArtifacts node
  let vdu := artifacts.foldl (fun vdu artifact => withArtifact vdu artifact.1 artifact.2)
    { plainVdu id count entity node with flavor := flavor, epa := epa }
  let files := artifacts.map fun artifact => (artifact.1, artifact.2.file)
  return { d with
    machines := d.machines ++ [{ node := entity, vdu := vdu, files := files }] }

end NfvCatalog.Translation
