import NfvCatalog.Proofs.Translation.Runs

/-! # What a translation asks its surroundings

Translating an entity asks whether a node exists, which phase it is of and which ids to make up. So
entities are translated alike in templates that agree on these.
-/

namespace NfvCatalog.Translation

open Tosca

/-- Surroundings that give the same answers about nodes and the same ids. -/
structure Surroundings.Alike (s s' : Surroundings) : Prop where
  nodes : ∀ node, s'.hasNode node = s.hasNode node
  phases : s'.phase? = s.phase?
  ids : s'.freshId = s.freshId

namespace Surroundings.Alike

variable {s s' : Surroundings} (alike : s.Alike s')
include alike

theorem requireTarget (node requirement target : String) (expected : Phase) :
    s'.requireTarget node requirement target expected =
      s.requireTarget node requirement target expected := by
  rw [Surroundings.requireTarget, Surroundings.requireTarget, alike.nodes, alike.phases]

theorem idOf (properties : Value.Entries) (d : Drafts) :
    d.idOf s' properties = d.idOf s properties := by
  simp only [Drafts.idOf, alike.ids]

private theorem claimMachines (entity : String) (place : Nat) (targets : List String)
    (claimed : Claimed) (d : Drafts) :
    claimMachines s' entity place targets claimed d =
      claimMachines s entity place targets claimed d := by
  induction targets generalizing claimed d with
  | nil => rfl
  | cons target rest ih => simp only [Translation.claimMachines, alike.requireTarget, ih]

private theorem mgmtFor (entity : String) (claimed : Claimed) (properties : Value.Entries) :
    mgmtFor s' entity claimed properties = mgmtFor s entity claimed properties := by
  simp only [mgmtFor.eq_def, mgmtOf, mgmtVdu, alike.requireTarget]

private theorem joinLinks (entity : String) (owner : Nat) (point : String)
    (targets : List String) (d : Drafts) :
    joinLinks s' entity owner point targets d = joinLinks s entity owner point targets d := by
  induction targets generalizing d with
  | nil => rfl
  | cons target rest ih => simp only [Translation.joinLinks, alike.requireTarget, ih]

private theorem requirePoints (entity : String) (targets : List String) :
    requirePoints s' entity targets = requirePoints s entity targets := by
  induction targets with
  | nil => rfl
  | cons target rest ih => simp only [Translation.requirePoints, alike.requireTarget, ih]

private theorem graphPaths (entity : String) (d : Drafts) (members : List String) :
    graphPaths s' entity d members = graphPaths s entity d members := by
  induction members with
  | nil => rfl
  | cons member rest ih => simp only [Translation.graphPaths, alike.nodes, ih]

private theorem memberPlace (policy field target : String) (d : Drafts) :
    memberPlace s' policy field target d = memberPlace s policy field target d := by
  simp only [Translation.memberPlace, alike.requireTarget]

private theorem targetPlaces (policy : String) (d : Drafts) (targets : List String) :
    targetPlaces s' policy d targets = targetPlaces s policy d targets := by
  induction targets with
  | nil => rfl
  | cons target rest ih => simp only [Translation.targetPlaces, alike.memberPlace, ih]

private theorem scaledMembers (policy : String) (d : Drafts) (entries : Value.Entries) :
    scaledMembers s' policy d entries = scaledMembers s policy d entries := by
  induction entries with
  | nil => rfl
  | cons entry rest ih =>
    obtain ⟨key, value⟩ := entry
    simp only [Translation.scaledMembers, alike.memberPlace, ih]

/-- An item is translated alike in alike surroundings. -/
theorem run (item : WorkItem) (d : Drafts) : item.run s' d = item.run s d := by
  obtain ⟨name, entity, resource⟩ := item
  cases resource <;>
    simp only [WorkItem.run, addLink, addMachine, addFunction, addPoint, boundMachine, addPath,
      addGraph, addScaling, addPlacement, alike.idOf, alike.requireTarget, alike.claimMachines,
      alike.mgmtFor, alike.joinLinks, alike.requirePoints, alike.graphPaths, alike.targetPlaces,
      alike.scaledMembers]

theorem runWork (work : List WorkItem) (d : Drafts) : runWork s' work d = runWork s work d := by
  induction work generalizing d with
  | nil => rfl
  | cons item rest ih => simp only [Translation.runWork, alike.run, ih]

end Surroundings.Alike

/-! ## Reordered templates

A template may describe its nodes in any order, as long as the nodes of each phase stay in theirs:
it makes the same work in the order of phases, and its entities find the same surroundings.
-/

/-- Templates that differ only in the order of their nodes, with the nodes that are handled in one
phase in the same order. -/
structure Reordered (template template' : Template) : Prop where
  rest : template' =
    { template with topology := { template.topology with nodes := template'.topology.nodes } }
  nodes : template'.topology.nodes.entries.Perm template.topology.nodes.entries
  phases : ∀ phase, nodesIn template' phase = nodesIn template phase

namespace Reordered

variable {template template' : Template} (reordered : Reordered template template')
include reordered

theorem symm : Reordered template' template where
  rest := by
    have back := congrArg (fun it : Template =>
      { it with topology := { it.topology with nodes := template.topology.nodes } }) reordered.rest
    exact back.symm
  nodes := reordered.nodes.symm
  phases phase := (reordered.phases phase).symm

/-- Types are declared as before. -/
theorem resolve : Resource.resolve template' = Resource.resolve template := by
  rw [reordered.rest]
  funext table name
  cases table <;> rfl

theorem otherEntities : otherEntities template'.topology = otherEntities template.topology := by
  rw [reordered.rest]
  rfl

/-- The same entities are supported. -/
private theorem supported {strict : Bool} {entry : String × Entity}
    (known : Supported template strict entry) : Supported template' strict entry := by
  rwa [Supported, reordered.resolve]

private theorem ofTopology : (Entity.ofTopology template'.topology).Perm
    (Entity.ofTopology template.topology) := by
  rw [ofTopology_eq, ofTopology_eq, reordered.otherEntities]
  exact (reordered.nodes.map _).append_right _

private theorem nodesOf {resource : Resource} (isNode : resource.table = .node) :
    nodesOf template' resource = nodesOf template resource := by
  rw [← nodesIn_phase template' isNode, ← nodesIn_phase template isNode, reordered.phases]

/-- In the order of phases the work of a reordered template is the same. -/
theorem exists_work {strict : Bool} {work : List WorkItem}
    (made : workOf template strict (Entity.ofTopology template.topology) = .ok work) :
    ∃ work', workOf template' strict (Entity.ofTopology template'.topology) = .ok work' ∧
      inPhases work' = inPhases work := by
  obtain ⟨known, -⟩ := workOf_eq_ok.mp made
  have made' := workOf_eq_ok.mpr ⟨fun entry member =>
    reordered.supported (known entry (reordered.ofTopology.mem_iff.mp member)), rfl⟩
  have items : itemOf? template' = itemOf? template := by
    funext entry
    rw [itemOf?, itemOf?, reordered.resolve]
  have nodes : ∀ resource ∈ nodeResources,
      (Translation.nodesOf template' resource).map (nodeItem resource) =
        (Translation.nodesOf template resource).map (nodeItem resource) := fun resource member => by
    rw [reordered.nodesOf (table_of_mem_nodeResources resource member)]
  refine ⟨_, made', ?_⟩
  rw [inPhases_workOf made', inPhases_workOf made, List.flatMap_congr nodes,
    otherItems_workOf made', otherItems_workOf made, items, reordered.otherEntities]

/-- Nodes are there and have phases as before. -/
private theorem alike {strict : Bool} {work work' : List WorkItem}
    (made : workOf template strict (Entity.ofTopology template.topology) = .ok work)
    (made' : workOf template' strict (Entity.ofTopology template'.topology) = .ok work')
    (freshId : Nat → String) :
    Surroundings.Alike ⟨template, nodePhases work, freshId⟩
      ⟨template', nodePhases work', freshId⟩ where
  nodes node := by
    simp only [Surroundings.hasNode, OrderedMap.contains,
      OrderedMap.get?_of_perm reordered.nodes]
  phases := by
    funext node
    have phases : phaseOf? template' = phaseOf? template := by
      funext node
      rw [phaseOf?, phaseOf?, reordered.resolve]
    rw [phase?_eq made, phase?_eq made', OrderedMap.get?_of_perm reordered.nodes, phases]
  ids := rfl

private theorem assemble (phases phases' : List (String × Phase)) (freshId : Nat → String)
    (d : Drafts) : assemble ⟨template', phases', freshId⟩ d =
      assemble ⟨template, phases, freshId⟩ d := by
  rw [reordered.rest]
  rfl

private theorem translate_ok {freshId : Nat → String} {strict : Bool} {service : Service}
    (accepted : translate freshId strict template = .ok service) :
    translate freshId strict template' = .ok service := by
  simp only [translate, bind_eq_ok] at accepted
  obtain ⟨work, made, d, ran, assembled⟩ := accepted
  obtain ⟨work', made', same⟩ := reordered.exists_work made
  have ran' : runWork ⟨template', nodePhases work', freshId⟩ (inPhases work') { } = .ok d := by
    rw [same, (reordered.alike made made' freshId).runWork, ran]
  simp only [translate, made', ok_bind, ran', reordered.assemble (nodePhases work), assembled]

end Reordered

/-- The order of nodes of different phases does not matter: with the same ids to make up, a template
is accepted exactly if a reordered one is, and both give the same descriptors and files. -/
theorem translate_reordered {template template' : Template}
    (reordered : Reordered template template') (freshId : Nat → String) (strict : Bool)
    (service : Service) :
    translate freshId strict template' = .ok service ↔
      translate freshId strict template = .ok service :=
  ⟨reordered.symm.translate_ok, reordered.translate_ok⟩

/-- The template of two functions with its nodes in another order, that of each phase apart. -/
def shuffledTemplate : Template :=
  { pairTemplate with
    topology := { pairTemplate.topology with
      nodes := .ofList [
        ("ping_cp", textNode "tosca.nodes.nfv.CP" [("name", "ping/cp0")]
          [("virtualBinding", "ping_io"), ("virtualLink", "lan")]),
        ("ping_io", textNode "tosca.nodes.nfv.VDU" [("id", "io")] []),
        ("ping", textNode "tosca.nodes.nfv.VNF" [("id", "ping_vnfd")]
          [("vdus", "ping_db"), ("vdus", "ping_io"), ("vdus", "ping_db")]),
        ("pong_cp", textNode "tosca.nodes.nfv.CP" [("name", "pong/cp0")]
          [("virtualBinding", "pong_io"), ("virtualLink", "lan"), ("virtualLink", "lan")]),
        ("pong", textNode "tosca.nodes.nfv.VNF" [("id", "pong_vnfd")] [("vdus", "pong_io")]),
        ("ping_db", textNode "tosca.nodes.nfv.VDU" [("id", "db")] []),
        ("lan", textNode "tosca.nodes.nfv.VL.ELAN" [("id", "lan")] []),
        ("pong_io", textNode "tosca.nodes.nfv.VDU" [("id", "io")] []),
        ("wan", textNode "tosca.nodes.nfv.VL.ELAN" [("id", "wan")] [])] } }

/-- Connection points may come before functions, and links last. -/
theorem shuffledTemplate_accepted :
    shuffledTemplate.topology.nodes.entries ≠ pairTemplate.topology.nodes.entries ∧
      ∃ service, translate (fun _ => "") true pairTemplate = .ok service ∧
        translate (fun _ => "") true shuffledTemplate = .ok service := by
  have reordered : Reordered pairTemplate shuffledTemplate := {
    rest := rfl
    nodes := by decide +kernel
    phases := fun phase => by cases phase <;> decide +kernel }
  obtain ⟨service, accepted, -⟩ := pairTemplate_accepted
  exact ⟨by decide +kernel, service, accepted,
    (translate_reordered reordered (fun _ => "") true service).mpr accepted⟩

end NfvCatalog.Translation
