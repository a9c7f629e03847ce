import NfvCatalog.Proofs.Descriptor.Merged
import NfvCatalog.Proofs.Translation.Contents
import NfvCatalog.Proofs.Translation.Indices

/-! # References of accepted templates

Whatever template a translation accepts, its descriptors refer only to each other: links, groups and
paths to constituents of the service, with the right functions, which are all there; and functions
to connection points and machines of their own. So validation finds no fault with a reference.
-/

namespace NfvCatalog.Translation

open Tosca

/-! ## Assembled services -/

/-- What a service is assembled from: each of its parts is made from the drafts, with the roster of
the functions for references. -/
structure Assembled (d : Drafts) (service : Service) (indices : List UInt32) : Prop where
  indexed : memberIndices d.functions = .ok indices
  constituents : service.nsd.constituents =
    constituentsOf (rosterOf indices d.functions) d.functions
  vlds : service.nsd.vlds = d.links.map (linkOf (rosterOf indices d.functions))
  scaling : service.nsd.scalingGroups = d.scaling.map (scalingOf (rosterOf indices d.functions))
  placement : service.nsd.placementGroups =
    d.placements.map (placementOf (rosterOf indices d.functions))
  graphs : graphsOf (rosterOf indices d.functions) d d.graphs = .ok service.nsd.graphs
  vnfds : service.vnfds = vnfdsOf d.functions
  primitives : service.nsd.primitives = d.primitives.mergeSort fun a b => a.seq ≤ b.seq
  artifacts : service.artifacts = artifactsOf d service.nsd.primitives

theorem assemble_ok {s : Surroundings} {d : Drafts} {service : Service}
    (assembled : assemble s d = .ok service) : ∃ indices, Assembled d service indices := by
  rw [assemble] at assembled
  split at assembled
  · cases assembled
  · simp only [bind_eq_ok, pure_eq_ok] at assembled
    obtain ⟨indices, indexed, graphs, drawn, rfl⟩ := assembled
    exact ⟨indices, indexed, rfl, rfl, rfl, rfl, drawn, rfl, rfl, rfl⟩

/-- Drafts are assembled if every machine has an owner, the indices can be given and the paths of
graphs lead through connection points. -/
theorem exists_assembled {s : Surroundings} {d : Drafts} {indices : List UInt32}
    {graphs : List ForwardingGraph} (owned : d.machines.all (·.owner.isSome) = true)
    (indexed : memberIndices d.functions = .ok indices)
    (drawn : graphsOf (rosterOf indices d.functions) d d.graphs = .ok graphs) :
    ∃ service, assemble s d = .ok service ∧ Assembled d service indices := by
  have no_orphan : d.machines.find? (·.owner.isNone) = none := by
    simpa [Option.isSome_iff_ne_none] using owned
  rw [assemble, no_orphan, indexed]
  simp only [ok_bind, drawn]
  exact ⟨_, rfl, indexed, rfl, rfl, rfl, rfl, drawn, rfl, rfl, rfl⟩

/-- A template is accepted if its work can be done and the drafts can be assembled. -/
theorem exists_translated {freshId : Nat → String} {strict : Bool} {template : Template}
    (d : Drafts) (indices : List UInt32)
    (ran : (do
      let work ← workOf template strict (Entity.ofTopology template.topology)
      runWork ⟨template, nodePhases work, freshId⟩
        ((List.range 7).flatMap fun rank => work.filter (·.resource.phase.rank = rank)) { }) =
      .ok d)
    (owned : d.machines.all (·.owner.isSome) = true)
    (indexed : memberIndices d.functions = .ok indices) (plain : d.graphs = []) :
    ∃ service, translate freshId strict template = .ok service ∧ Assembled d service indices := by
  simp only [bind_eq_ok, ← inPhases_eq] at ran
  obtain ⟨work, made, ran⟩ := ran
  obtain ⟨service, assembled, parts⟩ := @exists_assembled ⟨template, nodePhases work, freshId⟩
    d indices [] owned indexed (by rw [plain]; rfl)
  exact ⟨service, by simp only [translate, made, ok_bind, ran, assembled], parts⟩

/-! ## Constituents -/

theorem constituentsOf_rosterOf (indices : List UInt32) (functions : List FunctionDraft) :
    constituentsOf (rosterOf indices functions) functions =
      List.zipWith (fun index f => { index := index, vnfd := f.vnfd.id,
                                     startByDefault := f.startByDefault }) indices functions := by
  induction functions generalizing indices with
  | nil => simp [constituentsOf]
  | cons f rest ih =>
    cases indices with
    | nil => rfl
    | cons index others =>
      have tail := ih others
      rw [constituentsOf, rosterOf] at tail ⊢
      simp only [List.zipWith_cons_cons, tail]

section Paired

variable {indices : List UInt32} {functions : List FunctionDraft}
  (paired : indices.length = functions.length)
include paired

theorem map_index_constituentsOf :
    (constituentsOf (rosterOf indices functions) functions).map (·.index) = indices := by
  rw [constituentsOf_rosterOf, List.map_zipWith]
  induction indices generalizing functions with
  | nil => rfl
  | cons index rest ih =>
    cases functions with
    | nil => cases paired
    | cons f others => rw [List.zipWith_cons_cons, ih (by simpa using paired)]

theorem map_vnfd_constituentsOf :
    (constituentsOf (rosterOf indices functions) functions).map (·.vnfd) =
      functions.map (·.vnfd.id) := by
  rw [constituentsOf_rosterOf, List.map_zipWith]
  induction functions generalizing indices with
  | nil => simp
  | cons f rest ih =>
    cases indices with
    | nil => cases paired
    | cons index others =>
      rw [List.zipWith_cons_cons, ih (by simpa using paired), List.map_cons]

end Paired

/-- The functions are there under their ids. -/
private theorem checkedVnfd?_vnfdsOf {functions : List FunctionDraft} {f : FunctionDraft}
    (member : f ∈ functions) : (checkedVnfd? (vnfdsOf functions) f.vnfd.id).isSome = true := by
  have known : f.vnfd.id ∈ (vnfdsOf functions).map (·.id) := by
    rw [vnfdsOf, DescriptorSet.map_id_appendNew, List.mem_eraseDups, List.map_map]
    exact List.mem_map_of_mem member
  obtain ⟨vnfd, inVnfds, same⟩ := List.mem_map.mp known
  rw [checkedVnfd?, List.find?_isSome]
  exact ⟨vnfd, List.mem_reverse.mpr inVnfds, by simpa using same⟩

/-! ## References -/

/-- Every reference through a roster is to one of its members. -/
def Roster.Has (roster : Roster) (index : UInt32) (vnfd : String) : Prop :=
  { index := index, vnfd := vnfd } ∈ roster

section Roster

variable {roster : Roster}

private theorem has_of_getElem? {place : Nat} {m : Member} (seated : roster[place]? = some m) :
    roster.Has m.index m.vnfd :=
  List.mem_of_getElem? seated

private theorem linkOf_refers {link : LinkDraft} :
    ∀ ref ∈ (linkOf roster link).pointRefs, roster.Has ref.member ref.vnfd := by
  intro ref member
  obtain ⟨⟨place, point⟩, -, made⟩ := List.mem_filterMap.mp member
  obtain ⟨m, seated, rfl⟩ := Option.map_eq_some_iff.mp made
  exact has_of_getElem? seated

private theorem scalingOf_refers {scaling : ScalingDraft} :
    ∀ member ∈ (scalingOf roster scaling).members, ∃ vnfd, roster.Has member.member vnfd := by
  intro scaled member
  obtain ⟨⟨place, count⟩, -, made⟩ := List.mem_filterMap.mp member
  obtain ⟨m, seated, rfl⟩ := Option.map_eq_some_iff.mp made
  exact ⟨m.vnfd, has_of_getElem? seated⟩

private theorem placementOf_refers {placement : PlacementDraft} :
    ∀ member ∈ (placementOf roster placement).members, roster.Has member.member member.vnfd := by
  intro placed member
  obtain ⟨place, -, made⟩ := List.mem_filterMap.mp member
  obtain ⟨m, seated, rfl⟩ := Option.map_eq_some_iff.mp made
  exact has_of_getElem? seated

variable {d : Drafts}

private theorem hopsOf_refers {path : PathDraft} {order : Nat} {nodes : List String}
    {hops : List PathHop} (made : hopsOf roster d path order nodes = .ok hops) :
    ∀ hop ∈ hops, roster.Has hop.member hop.vnfd := by
  induction nodes generalizing order hops with
  | nil =>
    obtain rfl := Except.ok.inj made
    simp
  | cons node rest ih =>
    cases found : d.point? node with
    | none => simp [hopsOf, found] at made
    | some point =>
      simp only [hopsOf, found, bind_eq_ok] at made
      obtain ⟨others, madeRest, made⟩ := made
      cases seated : roster[point.function]? with
      | none =>
        obtain rfl : others = hops := by simpa [seated] using made
        exact ih madeRest
      | some m =>
        simp only [seated, pure_eq_ok] at made
        obtain rfl := made
        exact List.forall_mem_cons.mpr ⟨has_of_getElem? seated, ih madeRest⟩

private theorem pathsOf_refers {places : List Nat} {paths : List ServicePath}
    (made : pathsOf roster d places = .ok paths) :
    ∀ path ∈ paths, ∀ hop ∈ path.hops, roster.Has hop.member hop.vnfd := by
  induction places generalizing paths with
  | nil =>
    obtain rfl := Except.ok.inj made
    simp
  | cons place rest ih =>
    cases found : d.paths[place]? with
    | none => exact ih (by simpa [pathsOf, found] using made)
    | some path =>
      simp only [pathsOf, found, bind_eq_ok, pure_eq_ok] at made
      obtain ⟨hops, madeHops, others, madeRest, rfl⟩ := made
      exact List.forall_mem_cons.mpr ⟨hopsOf_refers madeHops, ih madeRest⟩

private theorem graphsOf_refers {drafts : List GraphDraft} {graphs : List ForwardingGraph}
    (made : graphsOf roster d drafts = .ok graphs) :
    ∀ graph ∈ graphs, ∀ path ∈ graph.paths, ∀ hop ∈ path.hops,
      roster.Has hop.member hop.vnfd := by
  induction drafts generalizing graphs with
  | nil =>
    obtain rfl := Except.ok.inj made
    simp
  | cons draft rest ih =>
    simp only [graphsOf, bind_eq_ok, pure_eq_ok] at made
    obtain ⟨paths, madePaths, others, madeRest, rfl⟩ := made
    exact List.forall_mem_cons.mpr ⟨pathsOf_refers madePaths, ih madeRest⟩

end Roster

namespace Assembled

variable {d : Drafts} {service : Service} {indices : List UInt32}
  (assembled : Assembled d service indices)
include assembled

theorem nodup_indices : (service.nsd.constituents.map (·.index)).Nodup := by
  obtain ⟨distinct, paired⟩ := nodup_of_memberIndices assembled.indexed
  rwa [assembled.constituents, map_index_constituentsOf paired]

/-- A member of the roster is the constituent that is found under its index. -/
theorem memberVnfd?_of_has {index : UInt32} {vnfd : String}
    (has : (rosterOf indices d.functions).Has index vnfd) :
    service.nsd.memberVnfd? index = some vnfd := by
  obtain ⟨place, seated⟩ := List.mem_iff_getElem?.mp has
  obtain ⟨i, f, indexed, drafted, same⟩ := List.getElem?_zipWith_eq_some.mp seated
  obtain ⟨rfl, rfl⟩ : i = index ∧ f.vnfd.id = vnfd := by simpa using same
  have member : { index := i, vnfd := f.vnfd.id, startByDefault := f.startByDefault } ∈
      service.nsd.constituents := by
    rw [assembled.constituents, constituentsOf_rosterOf]
    exact List.mem_of_getElem? (List.getElem?_zipWith_eq_some.mpr ⟨i, f, indexed, drafted, rfl⟩)
  have found := find?_key (fun member : ConstituentVnfd => member.index) assembled.nodup_indices
    member
  rw [Nsd.memberVnfd?, find?_reverse_key (fun member : ConstituentVnfd => member.index)
    assembled.nodup_indices, found]
  rfl

/-- An assembled service refers to its own constituents, and their functions come with it. -/
theorem refersWithin : service.nsd.RefersWithin service.vnfds where
  distinct := assembled.nodup_indices
  supplied member inService := by
    rw [assembled.constituents, constituentsOf_rosterOf] at inService
    obtain ⟨place, seated⟩ := List.mem_iff_getElem?.mp inService
    obtain ⟨i, f, -, drafted, rfl⟩ := List.getElem?_zipWith_eq_some.mp seated
    rw [assembled.vnfds]
    exact checkedVnfd?_vnfdsOf (List.mem_of_getElem? drafted)
  links vld member ref inLink := by
    rw [assembled.vlds] at member
    obtain ⟨link, -, rfl⟩ := List.mem_map.mp member
    exact assembled.memberVnfd?_of_has (linkOf_refers ref inLink)
  scaling group member scaled inGroup := by
    rw [assembled.scaling] at member
    obtain ⟨draft, -, rfl⟩ := List.mem_map.mp member
    obtain ⟨vnfd, has⟩ := scalingOf_refers scaled inGroup
    rw [assembled.memberVnfd?_of_has has]
    rfl
  placement group member placed inGroup := by
    rw [assembled.placement] at member
    obtain ⟨draft, -, rfl⟩ := List.mem_map.mp member
    exact assembled.memberVnfd?_of_has (placementOf_refers placed inGroup)
  paths graph member path inGraph hop inPath :=
    assembled.memberVnfd?_of_has (graphsOf_refers assembled.graphs graph member path inGraph hop
      inPath)

/-- The functions of an assembled service are those of the drafts. -/
theorem mem_functions {vnfd : Vnfd} (member : vnfd ∈ service.vnfds) :
    ∃ f ∈ d.functions, f.vnfd = vnfd := by
  rw [assembled.vnfds] at member
  simpa using DescriptorSet.mem_of_mem_appendNew Vnfd.id member

end Assembled

/-- Validation finds no fault with the references of an accepted template's descriptors. -/
theorem translate_refers_within {freshId : Nat → String} {strict : Bool} {template : Template}
    {service : Service} (accepted : translate freshId strict template = .ok service) :
    Silent Problem.ofMembers (service.nsd.validate service.vnfds) ∧
      ∀ vnfd ∈ service.vnfds, Silent Problem.ofMachines vnfd.validate := by
  obtain ⟨work, d, -, follows, -, ran⟩ := translate_ok accepted
  obtain ⟨indices, assembled⟩ := assemble_ok ran
  refine ⟨Nsd.silent_validate.mpr assembled.refersWithin, fun vnfd member => ?_⟩
  obtain ⟨f, drafted, rfl⟩ := assembled.mem_functions member
  exact Vnfd.silent_validate.mpr (follows.refers f drafted)

/-- A node whose properties are texts. -/
def textNode (nodeType : String) (properties requirements : List (String × String)) :
    NodeTemplate :=
  { nodeType := nodeType
    properties := properties.map fun entry => (.string entry.1, .string entry.2)
    requirements := requirements.map fun entry => .single entry.1 (.node entry.2) }

/-- A service of one function, which is on a link and has a policy for its placement. -/
def linkedTemplate : Template :=
  { version := profileVersion
    metadata := [(.string "ID", .string "linked_nsd")]
    topology :=
      { nodes := .ofList [
          ("link", textNode "tosca.nodes.nfv.VL.ELAN" [("id", "link")] []),
          ("ping", textNode "tosca.nodes.nfv.VNF" [("id", "ping_vnfd")] [("vdus", "ping_vdu")]),
          ("ping_vdu", textNode "tosca.nodes.nfv.VDU" [("id", "iovdu_0")] []),
          ("ping_cp", textNode "tosca.nodes.nfv.CP" [("name", "ping/cp0")]
            [("virtualBinding", "ping_vdu"), ("virtualLink", "link")])]
        policies := [.single "spread"
          { policyType := "tosca.policies.nfv.riftio.placement", targets := ["ping"] }] } }

/-- What the entities of the template are drafted as. -/
def linkedDrafts : Drafts :=
  { links := [
      { node := "link", vld := { id := "link", name := "link", linkType := some "ELAN" }
        points := [(0, "ping/cp0")] }]
    machines := [
      { node := "ping_vdu", vdu := { id := "iovdu_0", name := "ping_vdu" }, owner := some 0 }]
    functions := [
      { node := "ping"
        vnfd := {
          id := "ping_vnfd", name := "ping", mgmt := some { vdu := some "iovdu_0" }
          points := [{ name := "ping/cp0" }]
          vdus := [
            { id := "iovdu_0", name := "ping_vdu"
              interfaces := [
                { name := "eth0", pointRef := "ping/cp0", virtualType := some "VIRTIO" }] }] } }]
    points := [{ node := "ping_cp", function := 0, name := "ping/cp0" }]
    placements := [{ group := { name := "spread" }, members := [0] }] }

theorem linkedTemplate_accepted :
    ∃ service, translate (fun _ => "") true linkedTemplate = .ok service ∧
      Assembled linkedDrafts service [1] :=
  exists_translated linkedDrafts [1] (by decide +kernel) rfl (by decide) rfl

/-- The references of the template's service: the link and the placement refer to its constituent,
and the interface to its connection point. -/
theorem linkedTemplate_refers_within :
    ∃ service, translate (fun _ => "") true linkedTemplate = .ok service ∧
      service.nsd.constituents = [{ index := 1, vnfd := "ping_vnfd" }] ∧
        Silent Problem.ofMembers (service.nsd.validate service.vnfds) ∧
          ∀ vnfd ∈ service.vnfds, Silent Problem.ofMachines vnfd.validate := by
  obtain ⟨service, accepted, parts⟩ := linkedTemplate_accepted
  exact ⟨service, accepted, parts.constituents, translate_refers_within accepted⟩

end NfvCatalog.Translation
