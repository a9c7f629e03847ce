import NfvCatalog.Descriptor.Set
import NfvCatalog.Translation.Network
import NfvCatalog.Translation.Policies

/-! # Assembling descriptors

Once all entities are drafts, every VNF gets its member index: the one that it asks for, or else the
smallest that is still free. Then the drafts become the descriptor of the service, the descriptors
of its functions, and the list of the files that these need.
-/

namespace NfvCatalog.Translation

open Tosca

/-- Whose package a file belongs to. -/
inductive ArtifactOwner where
  | nsd
  | vnfd (id : String)
deriving DecidableEq, Repr, Inhabited

/-- A file that a descriptor needs. -/
structure Artifact where
  kind : ArtifactKind
  /-- The path of the file from the template's directory. -/
  source : String
  owner : ArtifactOwner
deriving DecidableEq, Repr, Inhabited

/-- What a template translates to. -/
structure Service where
  nsd : Nsd
  vnfds : List Vnfd := []
  artifacts : List Artifact := []
deriving DecidableEq, Repr, Inhabited

/-- The descriptors of a service. -/
def Service.descriptors (service : Service) : DescriptorSet :=
  { nsds := [service.nsd], vnfds := service.vnfds }

/-! ## Member indices -/

/-- The first index that is asked for twice. -/
def duplicateIndex? (seen : List UInt32) : List FunctionDraft → Option UInt32
  | [] => none
  | function :: rest =>
    match function.index with
    | none => duplicateIndex? seen rest
    | some index =>
      if index ∈ seen then some index else duplicateIndex? (index :: seen) rest

/-- The smallest positive index that is not used. -/
def firstFree (used : List UInt32) : UInt32 :=
  (((List.range (used.length + 1)).map fun n => UInt32.ofNat (n + 1)).find? (· ∉ used)).getD 0

/-- Give every VNF its index; `used` holds those that are taken. -/
def assignIndices (used : List UInt32) : List FunctionDraft → List UInt32
  | [] => []
  | function :: rest =>
    match function.index with
    | some index => index :: assignIndices used rest
    | none =>
      let index := firstFree used
      index :: assignIndices (index :: used) rest

/-- The member indices of VNFs. With more VNFs than there are indices the search for a free one does
not end; this is refused like an index that is used twice. -/
def memberIndices (functions : List FunctionDraft) : Except TranslationError (List UInt32) :=
  match duplicateIndex? [] functions with
  | some index => .error (.duplicateIndex index)
  | none =>
    if functions.length ≤ UInt32.size then
      .ok (assignIndices (functions.filterMap (·.index)) functions)
    else .error (.duplicateIndex 0)

/-! ## The service -/

/-- A VNF as others refer to it. -/
structure Member where
  index : UInt32
  vnfd : String
deriving DecidableEq, Repr, Inhabited

/-- The VNFs by their places. -/
abbrev Roster := List Member

/-- The roster of VNFs with their indices. -/
def rosterOf (indices : List UInt32) (functions : List FunctionDraft) : Roster :=
  List.zipWith (fun index function => { index := index, vnfd := function.vnfd.id }) indices
    functions

/-- The head of the service's descriptor, from the metadata of a template. -/
def headerOf (template : Template) (newId : String) : Nsd :=
  let value (key : String) : Option String := template.metadata.text? key
  let id := ((value "ID").or (value "id")).getD newId
  { id := id
    name := (value "name").getD id
    shortName := value "short_name"
    vendor := value "vendor"
    version := value "version"
    description := template.description
    logo := value "logo" }

/-- The constituents of the service. -/
def constituentsOf (roster : Roster) (functions : List FunctionDraft) : List ConstituentVnfd :=
  List.zipWith (fun member function =>
    { index := member.index, vnfd := member.vnfd, startByDefault := function.startByDefault })
    roster functions

/-- The descriptors of VNFs, one for each id: that of the first VNF with the id. -/
def vnfdsOf (functions : List FunctionDraft) : List Vnfd :=
  DescriptorSet.appendNew Vnfd.id [] (functions.map (·.vnfd))

/-- A link with its references. -/
def linkOf (roster : Roster) (link : LinkDraft) : Vld :=
  { link.vld with
    pointRefs := link.points.filterMap fun (place, point) =>
      (roster[place]?).map fun m => { member := m.index, vnfd := m.vnfd, point := point } }

/-- A scaling group with its members. -/
def scalingOf (roster : Roster) (scaling : ScalingDraft) : ScalingGroup :=
  { scaling.group with
    members := scaling.members.filterMap fun (place, count) =>
      (roster[place]?).map fun m => { member := m.index, count := count } }

/-- A placement group with its members. -/
def placementOf (roster : Roster) (placement : PlacementDraft) : PlacementGroup :=
  { placement.group with
    members := placement.members.filterMap fun place =>
      (roster[place]?).map fun m => { member := m.index, vnfd := m.vnfd } }

/-- The hops of a path, numbered from one. -/
def hopsOf (roster : Roster) (d : Drafts) (path : PathDraft) :
    Nat → List String → Except TranslationError (List PathHop)
  | _, [] => .ok []
  | order, hop :: rest =>
    match d.point? hop with
    | none => .error (.danglingReference path.node "forwarder" hop)
    | some point => do
      let others ← hopsOf roster d path (order + 1) rest
      match roster[point.function]? with
      | none => return others
      | some m =>
        return { member := m.index, order := UInt32.ofNat order, vnfd := m.vnfd
                 point := point.name } :: others

/-- The paths of a graph. -/
def pathsOf (roster : Roster) (d : Drafts) : List Nat → Except TranslationError (List ServicePath)
  | [] => .ok []
  | place :: rest =>
    match d.paths[place]? with
    | none => pathsOf roster d rest
    | some path => do
      let hops ← hopsOf roster d path 1 path.hops
      return { id := path.id, name := path.name, hops := hops } :: (← pathsOf roster d rest)

/-- The graphs of the service. -/
def graphsOf (roster : Roster) (d : Drafts) :
    List GraphDraft → Except TranslationError (List ForwardingGraph)
  | [] => .ok []
  | draft :: rest => do
    let paths ← pathsOf roster d draft.paths
    return { draft.graph with paths := paths } :: (← graphsOf roster d rest)

/-! ## Files -/

/-- Whether two artifacts are the same but for the spelling of the path. -/
def Artifact.same (left right : Artifact) : Bool :=
  left.kind = right.kind && left.owner = right.owner &&
    Path.components left.source = Path.components right.source

/-- A list without the items that repeat the one before them. -/
def dropRepeats {α : Type} (same : α → α → Bool) : List α → List α
  | [] => []
  | item :: rest =>
    match rest with
    | [] => [item]
    | next :: others =>
      if same item next then dropRepeats same (item :: others)
      else item :: dropRepeats same (next :: others)
termination_by items => items.length

/-- The files of machines, then the icons of VNFs, then the scripts of primitives. -/
def artifactsOf (d : Drafts) (primitives : List ConfigPrimitive) : List Artifact :=
  let ownerAt (place : Nat) : Option ArtifactOwner :=
    (d.functions[place]?).map fun function => .vnfd function.vnfd.id
  let files := d.machines.flatMap fun machine =>
    match machine.owner.bind ownerAt with
    | none => []
    | some owner => machine.files.map fun (kind, source) =>
        { kind := kind, source := source, owner := owner }
  let icons := d.functions.filterMap fun function =>
    function.logo.map fun logo =>
      { kind := .icon, source := logo, owner := .vnfd function.vnfd.id }
  let scripts := primitives.filterMap fun primitive =>
    primitive.script.map fun script =>
      { kind := .script, source := Path.join "scripts" script, owner := .nsd }
  dropRepeats Artifact.same (files ++ icons ++ scripts)

/-- Assemble the service from its drafts. Every machine must belong to a VNF. -/
def assemble (s : Surroundings) (d : Drafts) : Except TranslationError Service :=
  match d.machines.find? (·.owner.isNone) with
  | some orphan => .error (.orphanVdu orphan.node)
  | none => do
    let indices ← memberIndices d.functions
    let roster := rosterOf indices d.functions
    let primitives := d.primitives.mergeSort fun a b => a.seq ≤ b.seq
    let graphs ← graphsOf roster d d.graphs
    let nsd : Nsd :=
      { headerOf s.template (s.freshId d.drawn) with
        constituents := constituentsOf roster d.functions
        vlds := d.links.map (linkOf roster)
        scalingGroups := d.scaling.map (scalingOf roster)
        placementGroups := d.placements.map (placementOf roster)
        primitives := primitives
        graphs := graphs }
    return { nsd := nsd, vnfds := vnfdsOf d.functions, artifacts := artifactsOf d primitives }

end NfvCatalog.Translation
