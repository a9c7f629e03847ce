import NfvCatalog.Descriptor.Issue
import NfvCatalog.Descriptor.Nsd

/-! # Validation of descriptors

Validation never stops at the first problem: every check runs, and the answer lists all issues in
the order of the checks. References from a service into a VNFD are checked only where that VNFD is
supplied.
-/

namespace NfvCatalog

/-- The items that occur again after items already seen, each reported once, in the order of their
second occurrence. -/
def repeatedAfter {α : Type} [DecidableEq α] (seen reported : List α) : List α → List α
  | [] => []
  | item :: rest =>
    if item ∈ seen then
      if item ∈ reported then repeatedAfter seen reported rest
      else item :: repeatedAfter seen (item :: reported) rest
    else repeatedAfter (item :: seen) reported rest

/-- The items that occur more than once. -/
def repeated {α : Type} [DecidableEq α] (items : List α) : List α := repeatedAfter [] [] items

/-- Whether a text has nothing but blanks. -/
def isBlankText (text : String) : Bool := (Text.trim text).isEmpty

/-- One issue if a condition holds. -/
def issueIf (condition : Bool) (path : String) (problem : Problem) : List Issue :=
  if condition then [⟨path, problem⟩] else []

namespace Vnfd

/-- The place of a VNFD in issues. -/
def path (vnfd : Vnfd) : String := "vnfd[" ++ vnfd.id ++ "]"

/-- The place of a machine in issues. -/
def vduPath (vnfd : Vnfd) (vdu : Vdu) : String := vnfd.path ++ "/vdu[" ++ vdu.id ++ "]"

/-- Whether a connection point is declared. -/
def declares (vnfd : Vnfd) (point : String) : Bool := vnfd.points.any (·.name = point)

/-- The flavor values of a machine that are zero. -/
def zeroFlavors (flavor : VmFlavor) : List FlavorField :=
  (if flavor.vcpus = some 0 then [.vcpus] else []) ++
    (if flavor.memoryMb = some 0 then [.memory] else []) ++
    (if flavor.storageGb = some 0 then [.storage] else [])

/-- The issues of one machine. -/
def vduIssues (vnfd : Vnfd) (vdu : Vdu) : List Issue :=
  let path := vnfd.vduPath vdu
  issueIf (isBlankText vdu.id) path .blankVduId ++
    issueIf (vdu.count = some 0) path .zeroCount ++
    (match vdu.flavor with
      | some flavor => (zeroFlavors flavor).map fun field => ⟨path, .zeroFlavor field⟩
      | none => []) ++
    issueIf vdu.image.isNone path .noImage ++
    (vdu.interfaces.filter fun i => !vnfd.declares i.pointRef).map fun i =>
      ⟨path, .unknownPoint i.name i.pointRef⟩

/-- The issues of the management interface. -/
def mgmtIssues (vnfd : Vnfd) (mgmt : MgmtInterface) : List Issue :=
  let path := vnfd.path ++ "/mgmt-interface"
  (match mgmt.vdu with
    | some id => issueIf (vnfd.vdu? id).isNone path (.unknownMgmtVdu id)
    | none => []) ++
  (match mgmt.cp with
    | some name => issueIf (!vnfd.declares name) path (.unknownMgmtPoint name)
    | none => [])

/-- Whether any machine has an internal connection point. -/
def hasInternalPoint (vnfd : Vnfd) (id : String) : Bool :=
  vnfd.vdus.any fun vdu => vdu.internalPoints.any (·.id = id)

/-- The issues of one internal link. -/
def internalVldIssues (vnfd : Vnfd) (vld : InternalVld) : List Issue :=
  (vld.pointRefs.filter fun id => !vnfd.hasInternalPoint id).map fun id =>
    ⟨vnfd.path ++ "/internal-vld[" ++ vld.id ++ "]", .unknownInternalPoint id⟩

/-- All issues of a VNFD by itself. -/
def validate (vnfd : Vnfd) : List Issue :=
  issueIf (isBlankText vnfd.id) vnfd.path .blankId ++
    issueIf vnfd.vdus.isEmpty vnfd.path .noVdus ++
    (repeated (vnfd.vdus.map (·.id))).map (fun id => ⟨vnfd.path, .duplicateVdu id⟩) ++
    (repeated (vnfd.points.map (·.name))).map (fun name => ⟨vnfd.path, .duplicatePoint name⟩) ++
    vnfd.vdus.flatMap vnfd.vduIssues ++
    (match vnfd.mgmt with
      | some mgmt => vnfd.mgmtIssues mgmt
      | none => []) ++
    vnfd.internalVlds.flatMap vnfd.internalVldIssues

end Vnfd

/-- The supplied VNFD that references are checked against: the last one with the id. -/
def checkedVnfd? (vnfds : List Vnfd) (id : String) : Option Vnfd :=
  vnfds.reverse.find? (·.id = id)

namespace Nsd

/-- The place of an NSD in issues. -/
def path (nsd : Nsd) : String := "nsd[" ++ nsd.id ++ "]"

/-- The VNFD id of a member: the last constituent with the index counts. -/
def memberVnfd? (nsd : Nsd) (index : UInt32) : Option String :=
  (nsd.constituents.reverse.find? (·.index = index)).map (·.vnfd)

/-- The issues of a reference to a connection point of a member. -/
def pointRefIssues (nsd : Nsd) (vnfds : List Vnfd) (path : String) (ref : PointRef) : List Issue :=
  match nsd.memberVnfd? ref.member with
  | none => [⟨path, .unknownMember ref.member⟩]
  | some actual =>
    if actual ≠ ref.vnfd then [⟨path, .otherVnfd ref.member actual ref.vnfd⟩]
    else
      match checkedVnfd? vnfds ref.vnfd with
      | some vnfd =>
        issueIf (vnfd.point? ref.point).isNone path (.missingPoint ref.vnfd ref.point)
      | none => []

/-- The issues of the constituents, after those already seen. -/
def constituentIssues (nsd : Nsd) (vnfds : List Vnfd) (seen : List UInt32) :
    List ConstituentVnfd → List Issue
  | [] => []
  | constituent :: rest =>
    let path := nsd.path ++ s!"/constituent-vnfd[{constituent.index}]"
    let supplied := (checkedVnfd? vnfds constituent.vnfd).isSome
    issueIf (seen.contains constituent.index) path .duplicateMember ++
      issueIf (!supplied) path (.vnfdNotSupplied constituent.vnfd) ++
      constituentIssues nsd vnfds (constituent.index :: seen) rest

/-- The issues of one link. -/
def vldIssues (nsd : Nsd) (vnfds : List Vnfd) (vld : Vld) : List Issue :=
  vld.pointRefs.flatMap (nsd.pointRefIssues vnfds (nsd.path ++ "/vld[" ++ vld.id ++ "]"))

/-- The issues of one scaling group. -/
def scalingIssues (nsd : Nsd) (group : ScalingGroup) : List Issue :=
  let path := nsd.path ++ "/scaling-group-descriptor[" ++ group.name ++ "]"
  (match group.minInstances, group.maxInstances with
    | some least, some greatest => issueIf (greatest < least) path (.minExceedsMax least greatest)
    | _, _ => []) ++
  (group.members.filter fun m => (nsd.memberVnfd? m.member).isNone).map fun m =>
    ⟨path, .unknownMember m.member⟩

/-- The issues of one member of a placement group. -/
def placementMemberIssues (nsd : Nsd) (path : String) (member : PlacementMember) : List Issue :=
  match nsd.memberVnfd? member.member with
  | none => [⟨path, .unknownMember member.member⟩]
  | some actual =>
    issueIf (actual ≠ member.vnfd) path (.otherVnfd member.member actual member.vnfd)

/-- The issues of one placement group. -/
def placementIssues (nsd : Nsd) (group : PlacementGroup) : List Issue :=
  group.members.flatMap
    (nsd.placementMemberIssues (nsd.path ++ "/placement-groups[" ++ group.name ++ "]"))

/-- The issues of the primitives, after the sequence numbers already seen. -/
def primitiveIssues (nsd : Nsd) (seen : List UInt32) : List ConfigPrimitive → List Issue
  | [] => []
  | primitive :: rest =>
    issueIf (seen.contains primitive.seq)
      (nsd.path ++ "/initial-config-primitive[" ++ primitive.name ++ "]")
      (.duplicateSeq primitive.seq) ++
      primitiveIssues nsd (primitive.seq :: seen) rest

/-- The issues of one path of a forwarding graph. -/
def pathIssues (nsd : Nsd) (vnfds : List Vnfd) (graph : ForwardingGraph) (path : ServicePath) :
    List Issue :=
  path.hops.flatMap fun hop =>
    nsd.pointRefIssues vnfds (nsd.path ++ "/vnffgd[" ++ graph.id ++ "]/rsp[" ++ path.id ++ "]")
      ⟨hop.member, hop.vnfd, hop.point⟩

/-- All issues of an NSD, with its references checked against the supplied VNFDs. -/
def validate (nsd : Nsd) (vnfds : List Vnfd) : List Issue :=
  issueIf (isBlankText nsd.id) nsd.path .blankId ++
    issueIf nsd.constituents.isEmpty nsd.path .noConstituents ++
    nsd.constituentIssues vnfds [] nsd.constituents ++
    (repeated (nsd.vlds.map (·.id))).map (fun id => ⟨nsd.path, .duplicateVld id⟩) ++
    nsd.vlds.flatMap (nsd.vldIssues vnfds) ++
    nsd.scalingGroups.flatMap nsd.scalingIssues ++
    nsd.placementGroups.flatMap nsd.placementIssues ++
    nsd.primitiveIssues [] nsd.primitives ++
    nsd.graphs.flatMap fun graph => graph.paths.flatMap (nsd.pathIssues vnfds graph)

end Nsd

end NfvCatalog
