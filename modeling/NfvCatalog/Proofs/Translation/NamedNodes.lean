import NfvCatalog.Proofs.Translation.Closure

/-! # Nodes that entities name

The entities of a template refer to nodes by their names. A translation follows most of these
references and refuses a template in which one of them dangles. It passes over some: the bindings of
a connection point after the first, the targets of a scaling policy that counts its members, and the
counted members of a placement policy. These may name nodes that do not exist.
-/

namespace NfvCatalog.Translation

open Tosca

/-! ## References of entities -/

/-- A reference of an entity: the field that it stands in, the name of a node, and the phase that
the node must be of, if any. -/
structure Reference where
  field : String
  target : String
  phase : Option Phase
deriving DecidableEq, Repr

/-- The node that a reference names exists. -/
def Reference.Exists (template : Template) (reference : Reference) : Prop :=
  template.topology.nodes.contains reference.target = true

instance (template : Template) (reference : Reference) :
    Decidable (reference.Exists template) :=
  inferInstanceAs (Decidable (_ = true))

/-- The node that a reference names exists and is of the phase that it must be of. -/
structure Reference.Met (template : Template) (reference : Reference) : Prop where
  there : reference.Exists template
  phase : ∀ phase ∈ reference.phase,
    (template.topology.nodes.get? reference.target).bind (phaseOf? template) = some phase

/-- References of a field to nodes of a phase. -/
def referencesTo (field : String) (phase : Option Phase) (targets : List String) :
    List Reference :=
  targets.map fun target => { field := field, target := target, phase := phase }

/-- The nodes that a policy gives counts for. -/
def countedNodes (policy : Policy) : List String :=
  ((policy.properties.mapping? "vnfd_members").getD []).map fun entry =>
    entry.1.scalarText?.getD ""

/-- The references of an item to nodes. -/
def WorkItem.references (item : WorkItem) : List Reference :=
  match item.resource, item.entity with
  | .vnf, .node node => referencesTo "vdus" (some .vdu) (node.targets "vdus")
  | .connectionPoint, .node node =>
    referencesTo "virtualBinding" (some .vdu) (node.targets "virtualBinding") ++
      referencesTo "virtualLink" (some .virtualLink) (node.targets "virtualLink")
  | .forwardingPath, .node node =>
    referencesTo "forwarder" (some .connectionPoint) (node.targets "forwarder")
  | .forwardingGraph, .group group => referencesTo "members" none group.members
  | .scalingGroup, .policy policy | .placement, .policy policy =>
    referencesTo "targets" (some .vnf) policy.targets ++
      referencesTo "vnfd_members" (some .vnf) (countedNodes policy)
  | _, _ => []

/-- The references of an item that a translation passes over. -/
def WorkItem.passedOver (item : WorkItem) : List Reference :=
  match item.resource, item.entity with
  | .connectionPoint, .node node =>
    referencesTo "virtualBinding" (some .vdu) (node.targets "virtualBinding").tail
  | .scalingGroup, .policy policy =>
    if (policy.properties.mapping? "vnfd_members").isSome then
      referencesTo "targets" (some .vnf) policy.targets
    else []
  | .placement, .policy policy =>
    referencesTo "vnfd_members" (some .vnf) (countedNodes policy)
  | _, _ => []

/-- The references of an item that a translation follows. -/
def WorkItem.followed (item : WorkItem) : List Reference :=
  match item.resource, item.entity with
  | .connectionPoint, .node node =>
    referencesTo "virtualBinding" (some .vdu) (node.targets "virtualBinding").head?.toList ++
      referencesTo "virtualLink" (some .virtualLink) (node.targets "virtualLink")
  | .scalingGroup, .policy policy =>
    if (policy.properties.mapping? "vnfd_members").isSome then
      referencesTo "vnfd_members" (some .vnf) (countedNodes policy)
    else referencesTo "targets" (some .vnf) policy.targets
  | .placement, .policy policy => referencesTo "targets" (some .vnf) policy.targets
  | _, _ => item.references

/-- Each reference is either followed or passed over. -/
theorem WorkItem.references_perm (item : WorkItem) :
    item.references.Perm (item.followed ++ item.passedOver) := by
  obtain ⟨name, entity, resource⟩ := item
  cases resource <;> cases entity <;>
    simp only [references, followed, passedOver, List.append_nil, List.Perm.refl]
  case connectionPoint.node node =>
    rw [List.append_assoc]
    cases node.targets "virtualBinding" with
    | nil => simp [referencesTo]
    | cons first rest =>
      simp only [referencesTo, List.head?_cons, Option.toList_some, List.tail_cons, List.map_cons,
        List.map_nil, List.cons_append, List.nil_append]
      exact (List.perm_append_comm).cons _
  case scalingGroup.policy policy =>
    cases counted : policy.properties.mapping? "vnfd_members" with
    | none => simp [countedNodes, counted, referencesTo]
    | some entries =>
      simp only [Option.isSome_some, if_true]
      exact List.perm_append_comm

theorem WorkItem.mem_references {item : WorkItem} {reference : Reference} :
    reference ∈ item.references ↔ reference ∈ item.followed ∨ reference ∈ item.passedOver := by
  rw [item.references_perm.mem_iff, List.mem_append]

/-! ## Steps that follow references -/

section Steps

variable {s : Surroundings} {name : String} {d d' : Drafts}

/-- A followed reference is to a node that is known, of the phase that it must be of. -/
def Reference.Known (s : Surroundings) (reference : Reference) : Prop :=
  s.hasNode reference.target = true ∧ ∀ phase ∈ reference.phase, s.Knows reference.target phase

private theorem known_referencesTo {field : String} {phase : Phase} {targets : List String} :
    (∀ reference ∈ referencesTo field (some phase) targets, reference.Known s) ↔
      ∀ target ∈ targets, s.Knows target phase := by
  simp only [referencesTo, List.forall_mem_map, Reference.Known]
  refine forall₂_congr fun target _ => ⟨fun known => known.2 phase rfl, fun known => ?_⟩
  refine ⟨known.1, ?_⟩
  rintro _ ⟨⟩
  exact known

/-- The members of a graph are nodes: paths that are drafted, or others. -/
private theorem hasNode_of_graphPaths {members : List String} {places : List Nat}
    (paths : ∀ path ∈ d.paths, s.hasNode path.node = true)
    (ran : graphPaths s name d members = .ok places) :
    ∀ member ∈ members, s.hasNode member = true := by
  induction members generalizing places with
  | nil => simp
  | cons member rest ih =>
    rw [graphPaths] at ran
    cases found : d.pathPlace? member with
    | some place =>
      simp only [found, bind_eq_ok, pure_eq_ok] at ran
      obtain ⟨others, ranRest, -⟩ := ran
      obtain ⟨inside, named, -⟩ := List.findIdx?_eq_some_iff_getElem.mp found
      have isPath : d.paths[place].node = member := by simpa using named
      have drafted := paths _ (List.getElem_mem inside)
      exact List.forall_mem_cons.mpr ⟨isPath ▸ drafted, ih ranRest⟩
    | none =>
      by_cases here : s.hasNode member = true
      · simp only [found, here, if_true] at ran
        exact List.forall_mem_cons.mpr ⟨here, ih ran⟩
      · simp [found, here] at ran

private theorem known_of_memberPlace {field target : String} {place : Nat}
    (ran : memberPlace s name field target d = .ok place) : s.Knows target .vnf := by
  simp only [memberPlace, bind_eq_ok, requireTarget_eq_ok] at ran
  obtain ⟨-, known, -⟩ := ran
  exact known

private theorem known_of_targetPlaces {targets : List String} {places : List Nat}
    (ran : targetPlaces s name d targets = .ok places) :
    ∀ target ∈ targets, s.Knows target .vnf := by
  induction targets generalizing places with
  | nil => simp
  | cons target rest ih =>
    simp only [targetPlaces, bind_eq_ok, pure_eq_ok] at ran
    obtain ⟨place, first, others, ranRest, -⟩ := ran
    exact List.forall_mem_cons.mpr ⟨known_of_memberPlace first, ih ranRest⟩

private theorem known_of_scaledMembers {entries : Value.Entries} {members : List (Nat × UInt32)}
    (ran : scaledMembers s name d entries = .ok members) :
    ∀ entry ∈ entries, s.Knows (entry.1.scalarText?.getD "") .vnf := by
  induction entries generalizing members with
  | nil => simp
  | cons entry rest ih =>
    simp only [scaledMembers, bind_eq_ok, pure_eq_ok] at ran
    obtain ⟨count, -, place, first, others, ranRest, -⟩ := ran
    exact List.forall_mem_cons.mpr ⟨known_of_memberPlace first, ih ranRest⟩

/-- The first binding of a connection point is to a machine. -/
private theorem known_of_boundMachine {node : NodeTemplate} {machine : MachineDraft}
    (ran : boundMachine s name node d = .ok machine) :
    ∀ target ∈ (node.targets "virtualBinding").head?.toList, s.Knows target .vdu := by
  rw [boundMachine] at ran
  cases first : (node.targets "virtualBinding").head? with
  | none => simp
  | some binding =>
    simp only [first, bind_eq_ok, requireTarget_eq_ok] at ran
    obtain ⟨-, known, -⟩ := ran
    simpa using known

/-- When an item is translated, the nodes of its followed references are known. -/
theorem WorkItem.known_of_run {item : WorkItem}
    (paths : ∀ path ∈ d.paths, s.hasNode path.node = true) (ran : item.run s d = .ok d') :
    ∀ reference ∈ item.followed, reference.Known s := by
  obtain ⟨name, entity, resource⟩ := item
  cases resource <;> simp only [WorkItem.run, bind_eq_ok] at ran <;> obtain ⟨it, read, added⟩ := ran
  case virtualLink | vdu | initialConfig => cases entity <;> simp [followed, references]
  all_goals cases entity <;> cases read
  case vnf.node.refl =>
    simp only [addFunction, bind_eq_ok] at added
    obtain ⟨-, -, ⟨claimed, between⟩, claims, -⟩ := added
    exact known_referencesTo.mpr (claimMachines_keeps claims).1
  case connectionPoint.node.refl =>
    have onLinks := addPoint_ok added
    obtain ⟨-, -, -, -, -, -, links, -⟩ := onLinks
    simp only [addPoint, bind_eq_ok] at added
    obtain ⟨machine, bound, -⟩ := added
    exact List.forall_mem_append.mpr
      ⟨known_referencesTo.mpr (known_of_boundMachine bound), known_referencesTo.mpr links⟩
  case forwardingPath.node.refl =>
    obtain ⟨path, drawn, -, -, points, -⟩ := addPath_ok added
    exact known_referencesTo.mpr points
  case forwardingGraph.group.refl =>
    obtain ⟨graph, drawn, members, -⟩ := addGraph_ok added
    refine List.forall_mem_map.mpr fun member inGroup => ⟨?_, by rintro _ ⟨⟩⟩
    exact hasNode_of_graphPaths paths members member inGroup
  case scalingGroup.policy.refl =>
    obtain ⟨scaling, ranMembers, -⟩ := addScaling_ok added
    cases counted : it.properties.mapping? "vnfd_members" with
    | some entries =>
      simp only [scalingMembers, counted] at ranMembers
      have known := known_of_scaledMembers ranMembers
      simp only [followed, counted, Option.isSome_some, if_true, known_referencesTo]
      rw [countedNodes, counted]
      exact List.forall_mem_map.mpr known
    | none =>
      simp only [scalingMembers, counted, map_eq_ok] at ranMembers
      obtain ⟨places, targets, -⟩ := ranMembers
      have known := known_of_targetPlaces targets
      simpa only [followed, counted, Option.isSome_none, Bool.false_eq_true, if_false,
        known_referencesTo] using known
  case placement.policy.refl =>
    obtain ⟨placement, targets, -⟩ := addPlacement_ok added
    exact known_referencesTo.mpr (known_of_targetPlaces targets)

end Steps

/-! ## Runs -/

section Runs

variable {s : Surroundings} {d d' : Drafts}

/-- When the work is done, the followed references of all items are known. -/
theorem known_of_runWork {work : List WorkItem}
    (nodes : ∀ item ∈ work, item.resource = .forwardingPath → s.hasNode item.name = true)
    (paths : ∀ path ∈ d.paths, s.hasNode path.node = true) (ran : runWork s work d = .ok d') :
    ∀ item ∈ work, ∀ reference ∈ item.followed, reference.Known s := by
  induction work generalizing d with
  | nil => simp
  | cons first rest ih =>
    simp only [runWork, bind_eq_ok] at ran
    obtain ⟨between, ranFirst, ranRest⟩ := ran
    obtain ⟨here, later⟩ := List.forall_mem_cons.mp nodes
    have drafted : ∀ path ∈ between.paths, s.hasNode path.node = true := by
      intro path member
      have node : path.node ∈ between.paths.map (·.node) := List.mem_map_of_mem member
      rw [(WorkItem.nodes_of_run ranFirst).2, List.mem_append] at node
      rcases node with before | new
      · obtain ⟨old, inPaths, same⟩ := List.mem_map.mp before
        exact same ▸ paths old inPaths
      · obtain ⟨isPath, same⟩ : first.resource = .forwardingPath ∧ path.node = first.name := by
          simpa using new
        exact same ▸ here isPath
    exact List.forall_mem_cons.mpr ⟨first.known_of_run paths ranFirst, ih later drafted ranRest⟩

end Runs

/-! ## Accepted templates -/

section Accepted

variable {freshId : Nat → String} {strict : Bool} {template : Template}

/-- The work that the entities of a template make, in document order. -/
def itemsOf (template : Template) : List WorkItem :=
  (Entity.ofTopology template.topology).filterMap (itemOf? template)

/-- The item of a path is that of a node. -/
private theorem contains_of_isPath {work : List WorkItem} {item : WorkItem}
    (made : workOf template strict (Entity.ofTopology template.topology) = .ok work)
    (member : item ∈ work) (isPath : item.resource = .forwardingPath) :
    template.topology.nodes.contains item.name = true := by
  have listed : item ∈ ofResource .forwardingPath work := mem_ofResource.mpr ⟨member, isPath⟩
  rw [ofResource_workOf made rfl] at listed
  obtain ⟨entry, isNode, rfl⟩ := List.mem_map.mp listed
  exact OrderedMap.contains_of_mem _ (List.mem_filter.mp isNode).1

/-- A template is accepted only if the references that are followed are met. -/
theorem translate_names_nodes {service : Service}
    (accepted : translate freshId strict template = .ok service) :
    (∀ item ∈ itemsOf template, ∀ reference ∈ item.followed, reference.Met template) ∧
    ((∀ item ∈ itemsOf template, ∀ reference ∈ item.references, reference.Exists template) ↔
      ∀ item ∈ itemsOf template, ∀ reference ∈ item.passedOver, reference.Exists template) := by
  simp only [translate, bind_eq_ok] at accepted
  obtain ⟨work, made, d, ran, -⟩ := accepted
  have met : ∀ item ∈ itemsOf template, ∀ reference ∈ item.followed,
      reference.Met template := by
    intro item member reference isFollowed
    have works : work = itemsOf template := workOf_ok made
    have known := known_of_runWork
      (fun item inOrder => contains_of_isPath made (List.mem_mergeSort.mp inOrder)) (by simp) ran
    have inOrder : item ∈ inPhases work := List.mem_mergeSort.mpr (works ▸ member)
    obtain ⟨there, phased⟩ := known item inOrder reference isFollowed
    refine ⟨there, fun phase expected => ?_⟩
    rw [← phase?_eq made]
    exact (phased phase expected).2
  refine ⟨met, fun exist item member reference passed => ?_, fun exist item member reference => ?_⟩
  · exact exist item member reference (WorkItem.mem_references.mpr (.inr passed))
  · rw [WorkItem.mem_references]
    rintro (isFollowed | passed)
    · exact (met item member reference isFollowed).there
    · exact exist item member reference passed

end Accepted

/-- A policy on nodes that gives counts for members. -/
def countingPolicy (policyType : String) (targets : List String) (counts : List (String × Nat)) :
    Policy :=
  { policyType := policyType
    properties := [(.string "vnfd_members",
      .mapping (counts.map fun entry => (.string entry.1, .number (.int entry.2))))]
    targets := targets }

/-- A service of one function. A second binding of its connection point, a target of its scaling
policy and a counted member of its placement policy are misspelt. -/
def misspeltTemplate : Template :=
  { version := profileVersion
    metadata := [(.string "ID", .string "misspelt_nsd")]
    topology :=
      { nodes := .ofList [
          ("ping", textNode "tosca.nodes.nfv.VNF" [("id", "ping_vnfd")] [("vdus", "ping_vdu")]),
          ("ping_vdu", textNode "tosca.nodes.nfv.VDU" [("id", "iovdu_0")] []),
          ("ping_cp", textNode "tosca.nodes.nfv.CP" [("name", "ping/cp0")]
            [("virtualBinding", "ping_vdu"), ("virtualBinding", "pign_vdu")]),
          ("path", textNode "tosca.nodes.nfv.FP" [("id", "path")] [("forwarder", "ping_cp")])]
        policies := [
          .single "grow"
            (countingPolicy "tosca.policies.riftio.ScalingGroup" ["pign"] [("ping", 2)]),
          .single "spread"
            (countingPolicy "tosca.policies.nfv.riftio.placement" ["ping"] [("pign", 1)])] } }

/-- What the entities of the template are drafted as. -/
def misspeltDrafts : Drafts :=
  { machines := [
      { node := "ping_vdu", vdu := { id := "iovdu_0", name := "ping_vdu" }, owner := some 0 }]
    functions := [
      { node := "ping"
        vnfd := {
          id := "ping_vnfd", name := "ping", mgmt := some { vdu := some "iovdu_0" }
          points := [{ name := "ping/cp0" }]
          vdus := [
            { id := "iovdu_0", name := "ping_vdu"
              interfaces := [
                { name := "eth0", pointRef := "ping/cp0", virtualType := some "VIRTIO" }] }] } }]
    points := [{ node := "ping_cp", function := 0, name := "ping/cp0" }]
    paths := [{ node := "path", id := "path", name := "path", hops := ["ping_cp"] }]
    scaling := [{ group := { name := "grow" }, members := [(0, 2)] }]
    placements := [{ group := { name := "spread" }, members := [0] }] }

/-- The template is accepted, although each of the references that are passed over dangles. -/
theorem misspeltTemplate_names_nodes :
    ∃ service, translate (fun _ => "") true misspeltTemplate = .ok service ∧
      ((itemsOf misspeltTemplate).flatMap WorkItem.followed).map (·.target) =
        ["ping_vdu", "ping_vdu", "ping_cp", "ping", "ping"] ∧
      (∀ item ∈ itemsOf misspeltTemplate, ∀ reference ∈ item.followed,
        reference.Met misspeltTemplate) ∧
      ((itemsOf misspeltTemplate).flatMap WorkItem.passedOver).map (·.target) =
        ["pign_vdu", "pign", "pign"] ∧
      ¬ ∀ item ∈ itemsOf misspeltTemplate, ∀ reference ∈ item.references,
        reference.Exists misspeltTemplate := by
  obtain ⟨service, accepted, -⟩ := @exists_translated (fun _ => "") true misspeltTemplate
    misspeltDrafts [1] (by decide +kernel) rfl (by decide) rfl
  obtain ⟨met, exist⟩ := translate_names_nodes accepted
  refine ⟨service, accepted, by decide +kernel, met, by decide +kernel, ?_⟩
  rw [exist]
  decide +kernel

end NfvCatalog.Translation
