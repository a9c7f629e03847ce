import NfvCatalog.Proofs.Translation.Runs

/-! # What is emitted

The constituents and the descriptors of functions that an accepted template makes, and the
references on its links.

Every VNF node of an accepted template becomes a constituent, in document order. There is one
descriptor for each id, which is that of the first node with the id. It has all the machines that
this node claims, and a connection point for every node that is bound to one of them. A later node
with the id has the same descriptor, whatever it claims itself.
-/

namespace NfvCatalog.Translation

open Tosca

/-- A descriptor has what the node of a function asks for: the machines that the node claims, each
as its own node describes it, and the connection points that are bound to them. -/
structure Holds (template : Template) (node : NodeTemplate) (vnfd : Vnfd) : Prop where
  machines : ∀ target ∈ node.targets "vdus", ∃ machine, (target, machine) ∈ nodesOf template .vdu ∧
    ∃ vdu ∈ vnfd.vdus, DescribedBy target machine vdu
  points : ∀ point ∈ nodesOf template .connectionPoint, ∀ target ∈ node.targets "vdus",
    (point.2.targets "virtualBinding").head? = some target →
      pointOf point.1 point.2 ∈ vnfd.points

/-! ## Descriptors of functions -/

section Functions

variable {functions : List FunctionDraft} {place : Nat} {f : FunctionDraft}
  (drafted : functions[place]? = some f)
include drafted

end Functions

/-! ## Drafts of whole templates -/

section Drafts

variable {template : Template} {strict : Bool} {work : List WorkItem} {d : Drafts}
  (made : workOf template strict (Entity.ofTopology template.topology) = .ok work)
include made

variable (follows : d.Follows (inPhases work))
include follows

end Drafts

/-! ## Accepted templates -/

/-- The constituents of a service are the functions that are drafted from the VNF nodes, in document
order. -/
structure ConstituentsOf (template : Template) (d : Drafts) (members : List ConstituentVnfd) :
    Prop where
  nodes : d.functions.map (·.node) = (nodesOf template .vnf).map Prod.fst
  vnfds : members.map (·.vnfd) = d.functions.map (·.vnfd.id)
  indices : memberIndices d.functions = .ok (members.map (·.index))

theorem ConstituentsOf.length_eq {template : Template} {d : Drafts}
    {members : List ConstituentVnfd} (constituents : ConstituentsOf template d members) :
    members.length = (nodesOf template .vnf).length := by
  have vnfds := congrArg List.length constituents.vnfds
  have nodes := congrArg List.length constituents.nodes
  simp only [List.length_map] at vnfds nodes
  exact vnfds.trans nodes

/-- The constituent that owns the machine which a connection point is bound to: the one of the VNF
node that names the target of the connection point's first binding. -/
def ownerOf? (template : Template) (members : List ConstituentVnfd) (point : NodeTemplate) :
    Option ConstituentVnfd :=
  ((point.targets "virtualBinding").head?.bind (ownerAmong (nodesOf template .vnf))).bind
    (members[·]?)

/-- The references that a connection point puts on the link of a node: one for each requirement that
names the link. -/
def refsOf (template : Template) (members : List ConstituentVnfd) (link : String)
    (point : String × NodeTemplate) : List PointRef :=
  match ownerOf? template members point.2 with
  | none => []
  | some owner => ((point.2.targets "virtualLink").filter (· = link)).map fun _ =>
      { member := owner.index, vnfd := owner.vnfd, point := nameOf point.2.properties point.1 }

/-- A link is the one that its node describes, with the references that connection points put on
it. -/
structure WiredAs (template : Template) (members : List ConstituentVnfd)
    (entry : String × NodeTemplate) (vld : Vld) : Prop where
  described : LinkDescribedBy entry.1 entry.2 { vld with pointRefs := [] }
  refs : vld.pointRefs =
    (nodesOf template .connectionPoint).flatMap (refsOf template members entry.1)

section Drafted

variable {template : Template} {d : Drafts} {service : Service} {indices : List UInt32}

theorem constituentsOf_of_assembled (drafted : DraftedFrom template d)
    (assembled : Assembled d service indices) :
    ConstituentsOf template d service.nsd.constituents := by
  obtain ⟨-, paired⟩ := nodup_of_memberIndices assembled.indexed
  refine ⟨drafted.map_node_functions, ?_, ?_⟩
  · rw [assembled.constituents, map_vnfd_constituentsOf paired]
  · rw [assembled.constituents, map_index_constituentsOf paired, assembled.indexed]

/-- The roster of the functions is that of the constituents. -/
private theorem rosterOf_eq (assembled : Assembled d service indices) :
    rosterOf indices d.functions =
      service.nsd.constituents.map fun member => { index := member.index, vnfd := member.vnfd } := by
  rw [assembled.constituents, constituentsOf_rosterOf, List.map_zipWith]
  rfl

/-- A connection point that is bound has an owner, which is the one of its machine. -/
private theorem exists_owner (drafted : DraftedFrom template d)
    (assembled : Assembled d service indices) {node : NodeTemplate}
    (bound : IsBound d.machines node) :
    ∃ place member, (boundTo? d.machines node).bind (·.owner) = some place ∧
      service.nsd.constituents[place]? = some member ∧
      ownerOf? template service.nsd.constituents node = some member := by
  obtain ⟨m, place, found, owned⟩ := bound
  have owner := drafted.owner_boundTo? ⟨m, place, found, owned⟩
  rw [found, Option.bind_some, owned] at owner
  have count := (constituentsOf_of_assembled drafted assembled).length_eq
  obtain ⟨target, -, names⟩ := Option.bind_eq_some_iff.mp owner.symm
  obtain ⟨member, there⟩ : ∃ member, service.nsd.constituents[place]? = some member :=
    ⟨_, List.getElem?_eq_getElem (count ▸ lt_of_ownerAmong names)⟩
  exact ⟨place, member, by rw [found, Option.bind_some, owned], there,
    by rw [ownerOf?, ← owner, Option.bind_some, there]⟩

/-- What the draft of a link has from connection points becomes their references. -/
private theorem filterMap_pointsOn (drafted : DraftedFrom template d)
    (assembled : Assembled d service indices) (link : String) :
    (pointsOn d.machines (nodesOf template .connectionPoint) link).filterMap
      (fun (place, point) => ((rosterOf indices d.functions)[place]?).map fun m =>
        ({ member := m.index, vnfd := m.vnfd, point := point } : PointRef)) =
      (nodesOf template .connectionPoint).flatMap
        (refsOf template service.nsd.constituents link) := by
  rw [pointsOn, List.filterMap_flatMap]
  refine List.flatMap_congr fun point member => ?_
  obtain ⟨place, owner, owned, there, isOwner⟩ :=
    exists_owner drafted assembled (drafted.bound point member)
  have seated : (rosterOf indices d.functions)[place]? =
      some { index := owner.index, vnfd := owner.vnfd } := by
    rw [rosterOf_eq assembled, List.getElem?_map, there, Option.map_some]
  simp only [refsOf, isOwner, owned, List.filter_eq, List.map_replicate]
  exact List.filterMap_replicate_of_some (by rw [seated, Option.map_some])

end Drafted

/-- An accepted template's virtual link nodes become its links, in document order. The references of
a link are those of the connection points that name it, in document order. Each connection point
belongs to a constituent, which is the only one that owns its machine. -/
theorem translate_wires_links {freshId : Nat → String} {strict : Bool} {template : Template}
    {service : Service} (accepted : translate freshId strict template = .ok service) :
    ∃ d, draftsOf freshId strict template = .ok d ∧
      ConstituentsOf template d service.nsd.constituents ∧ NamedOnce (nodesOf template .vnf) ∧
      (∀ point ∈ nodesOf template .connectionPoint,
        (ownerOf? template service.nsd.constituents point.2).isSome) ∧
      List.Forall₂ (WiredAs template service.nsd.constituents) (nodesOf template .virtualLink)
        service.nsd.vlds := by
  obtain ⟨d, indices, ran, drafted, assembled, -⟩ := exists_drafts accepted
  refine ⟨d, ran, constituentsOf_of_assembled drafted assembled, drafted.once,
    fun point member => ?_, ?_⟩
  · obtain ⟨-, owner, -, -, isOwner⟩ :=
      exists_owner drafted assembled (drafted.bound point member)
    rw [isOwner]
    rfl
  · obtain ⟨plain, each, links⟩ := drafted.links
    rw [assembled.vlds, links, List.map_map, List.forall₂_map_right_iff]
    refine each.imp fun entry link isLink => ⟨?_, ?_⟩
    · have bare : { link.vld with pointRefs := [] } = link.vld := by
        rw [← (vldOf_ok isLink.described.described).2]
      simpa [linkOf, LinkDraft.withPoints, bare] using isLink.described
    · rw [← filterMap_pointsOn drafted assembled, ← isLink.named]
      simp [linkOf, LinkDraft.withPoints, isLink.points]

/-- The link of the two functions has a reference for each time that a connection point names it,
and the other link has none. -/
theorem pairTemplate_wires_links :
    ∃ service, translate (fun _ => "") true pairTemplate = .ok service ∧
      service.nsd.vlds.map (·.pointRefs) =
        [[{ member := 1, vnfd := "ping_vnfd", point := "ping/cp0" },
          { member := 2, vnfd := "pong_vnfd", point := "pong/cp0" },
          { member := 2, vnfd := "pong_vnfd", point := "pong/cp0" }], []] := by
  obtain ⟨service, accepted, parts⟩ := pairTemplate_accepted
  obtain ⟨d, -, -, -, -, links⟩ := translate_wires_links accepted
  have nodes : nodesOf pairTemplate .virtualLink =
      [("lan", textNode "tosca.nodes.nfv.VL.ELAN" [("id", "lan")] []),
       ("wan", textNode "tosca.nodes.nfv.VL.ELAN" [("id", "wan")] [])] := by decide +kernel
  rw [nodes] at links
  refine ⟨service, accepted, ?_⟩
  generalize service.nsd.vlds = vlds at links ⊢
  obtain _ | ⟨lan, _ | ⟨wan, _ | _⟩⟩ := links
  rw [List.map_cons, List.map_cons, lan.refs, wan.refs, parts.constituents]
  decide +kernel

end NfvCatalog.Translation
