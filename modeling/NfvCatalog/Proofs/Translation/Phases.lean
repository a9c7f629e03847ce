import NfvCatalog.Proofs.Lists.Ranked
import NfvCatalog.Proofs.Tosca.OrderedMap
import NfvCatalog.Proofs.Translation.Steps

/-! # Work in the order of phases

The work of a template is its entities that belong to resources. Phases keep the items of a resource
of nodes in document order, and when the turn of an item comes, all that it may refer to is done.
-/

namespace NfvCatalog.Translation

open Tosca

/-! ## The work of a template -/

/-- The groups and policies of a topology. -/
def otherEntities (topology : Topology) : List (String × Entity) :=
  topology.groups.entries.map (fun entry => (entry.1, .group entry.2)) ++
    topology.policyPairs.map fun entry => (entry.1, .policy entry.2)

theorem ofTopology_eq (topology : Topology) :
    Entity.ofTopology topology =
      topology.nodes.entries.map (fun entry => (entry.1, .node entry.2)) ++
        otherEntities topology := by
  rw [Entity.ofTopology, List.append_assoc]
  rfl

private theorem table_of_mem_otherEntities {topology : Topology} {entry : String × Entity}
    (member : entry ∈ otherEntities topology) : entry.2.table ≠ .node := by
  rcases List.mem_append.mp member with inGroups | inPolicies
  · obtain ⟨_, -, rfl⟩ := List.mem_map.mp inGroups
    simp [Entity.table]
  · obtain ⟨_, -, rfl⟩ := List.mem_map.mp inPolicies
    simp [Entity.table]

/-- The work that an entity makes, if it belongs to a resource. -/
def itemOf? (template : Template) (entry : String × Entity) : Option WorkItem :=
  match Resource.resolve template entry.2.table entry.2.typeName with
  | .ok (some resource) => some { name := entry.1, entity := entry.2, resource := resource }
  | _ => none

/-- The type of an entity is known, and a strict translation knows its resource. -/
def Supported (template : Template) (strict : Bool) (entry : String × Entity) : Prop :=
  ∃ owner, Resource.resolve template entry.2.table entry.2.typeName = .ok owner ∧
    (strict = true → owner ≠ none)

theorem workOf_eq_ok {template : Template} {strict : Bool} {entities : List (String × Entity)}
    {work : List WorkItem} : workOf template strict entities = .ok work ↔
      (∀ entry ∈ entities, Supported template strict entry) ∧
        work = entities.filterMap (itemOf? template) := by
  induction entities generalizing work with
  | nil => simp [workOf, eq_comm]
  | cons entry rest ih =>
    simp only [workOf, List.forall_mem_cons, Supported]
    cases resolved : Resource.resolve template entry.2.table entry.2.typeName with
    | error error => simp
    | ok owner =>
      cases owner with
      | some resource =>
        have first : itemOf? template entry = some ⟨entry.1, entry.2, resource⟩ := by
          simp [itemOf?, resolved]
        simp only [bind_eq_ok, pure_eq_ok, ih, List.filterMap_cons_some first]
        simp [Supported, eq_comm]
      | none =>
        have first : itemOf? template entry = none := by simp [itemOf?, resolved]
        cases strict with
        | true => simp
        | false => simp [ih, List.filterMap_cons_none first, Supported]

theorem workOf_ok {template : Template} {strict : Bool} {entities : List (String × Entity)}
    {work : List WorkItem} (made : workOf template strict entities = .ok work) :
    work = entities.filterMap (itemOf? template) :=
  (workOf_eq_ok.mp made).2

/-- A resource owns types of its own table only. -/
private theorem table_of_resolve {template : Template} {table : TypeTable} {name : String}
    {resource : Resource} (resolved : Resource.resolve template table name = .ok (some resource)) :
    resource.table = table := by
  simp only [Resource.resolve, Registry.resolve, Resource.registry, bind_eq_ok,
    pure_eq_ok] at resolved
  obtain ⟨chain, -, found⟩ := resolved
  obtain ⟨type, -, owned⟩ := List.exists_of_findSome?_eq_some found
  have owns := List.find?_some owned
  simp only [Bool.and_eq_true, decide_eq_true_eq] at owns
  exact owns.1

private theorem itemOf?_eq_some {template : Template} {entry : String × Entity} {item : WorkItem} :
    itemOf? template entry = some item ↔
      Resource.resolve template entry.2.table entry.2.typeName = .ok (some item.resource) ∧
        entry = (item.name, item.entity) := by
  rw [itemOf?]
  cases resolved : Resource.resolve template entry.2.table entry.2.typeName with
  | error error => simp
  | ok owner =>
    cases owner with
    | none => simp
    | some resource =>
      obtain ⟨name, entity⟩ := entry
      obtain ⟨itsName, itsEntity, itsResource⟩ := item
      simp
      tauto

/-- The entity of an item lives in the table of the item's resource. -/
theorem table_of_workOf {template : Template} {strict : Bool} {entities : List (String × Entity)}
    {work : List WorkItem} (made : workOf template strict entities = .ok work) :
    ∀ item ∈ work, item.entity.table = item.resource.table := by
  intro item member
  rw [workOf_ok made] at member
  obtain ⟨entry, -, itemIs⟩ := List.mem_filterMap.mp member
  obtain ⟨resolved, rfl⟩ := itemOf?_eq_some.mp itemIs
  exact (table_of_resolve resolved).symm

/-- The items of a resource, in order. -/
def ofResource (resource : Resource) (work : List WorkItem) : List WorkItem :=
  work.filter (·.resource = resource)

theorem mem_ofResource {resource : Resource} {work : List WorkItem} {item : WorkItem} :
    item ∈ ofResource resource work ↔ item ∈ work ∧ item.resource = resource := by
  simp [ofResource]

theorem ofResource_append (resource : Resource) (front back : List WorkItem) :
    ofResource resource (front ++ back) = ofResource resource front ++ ofResource resource back :=
  List.filter_append ..

/-- The nodes of a resource, in document order. -/
def nodesOf (template : Template) (resource : Resource) : List (String × NodeTemplate) :=
  template.topology.nodes.entries.filter fun entry =>
    (Resource.resolve template .node entry.2.nodeType).toOption = some (some resource)

theorem nodup_nodesOf (template : Template) (resource : Resource) :
    ((nodesOf template resource).map Prod.fst).Nodup :=
  template.topology.nodes.distinct.sublist (List.filter_sublist.map _)

section Work

variable {template : Template} {strict : Bool} {work : List WorkItem}
  (made : workOf template strict (Entity.ofTopology template.topology) = .ok work)
include made

/-- The items of a resource of nodes are the nodes of this resource. -/
theorem ofResource_workOf {resource : Resource} (isNode : resource.table = .node) :
    ofResource resource work =
      (nodesOf template resource).map fun entry => ⟨entry.1, .node entry.2, resource⟩ := by
  have others : ofResource resource
      ((otherEntities template.topology).filterMap (itemOf? template)) = [] := by
    refine List.filter_eq_nil_iff.mpr fun item member => ?_
    obtain ⟨entry, inEntities, itemIs⟩ := List.mem_filterMap.mp member
    have owned := table_of_resolve (itemOf?_eq_some.mp itemIs).1
    simp only [decide_eq_true_eq]
    exact fun same => table_of_mem_otherEntities inEntities (owned.symm.trans (same ▸ isNode))
  have nodes (entries : List (String × NodeTemplate)) :
      ofResource resource
        ((entries.map fun entry => (entry.1, Entity.node entry.2)).filterMap (itemOf? template)) =
      (entries.filter fun entry => (Resource.resolve template .node entry.2.nodeType).toOption =
        some (some resource)).map fun entry => ⟨entry.1, .node entry.2, resource⟩ := by
    induction entries with
    | nil => rfl
    | cons entry rest ih =>
      rw [List.map_cons, List.filterMap_cons, List.filter_cons]
      rcases resolved : Resource.resolve template .node entry.2.nodeType with error | _ | owner
      · simpa [itemOf?, Entity.table, Entity.typeName, resolved, Except.toOption] using ih
      · simpa [itemOf?, Entity.table, Entity.typeName, resolved, Except.toOption] using ih
      · by_cases same : owner = resource
        · simpa [itemOf?, Entity.table, Entity.typeName, resolved, Except.toOption, same,
            ofResource] using ih
        · simpa [itemOf?, Entity.table, Entity.typeName, resolved, Except.toOption, same,
            ofResource] using ih
  rw [workOf_ok made, ofTopology_eq, List.filterMap_append, ofResource_append, others, nodes,
    List.append_nil, nodesOf]

end Work

/-! ## The order of phases -/

/-- In the order of phases the items of each phase stand together, in document order. -/
theorem inPhases_eq (work : List WorkItem) :
    inPhases work =
      (List.range 7).flatMap fun rank => work.filter (·.resource.phase.rank = rank) :=
  mergeSort_rank (fun item : WorkItem => item.resource.phase.rank) 7 work
    fun item _ => by cases item.resource <;> decide

/-- A resource of nodes has a phase of its own. -/
private theorem eq_iff_rank {resource : Resource} (isNode : resource.table = .node)
    (other : Resource) : other = resource ↔ other.phase.rank = resource.phase.rank := by
  cases other <;> cases resource <;> first | decide | cases isNode

/-- The items of a resource of nodes are those of its phase. -/
private theorem ofResource_eq_filter {resource : Resource} (isNode : resource.table = .node)
    (work : List WorkItem) :
    ofResource resource work =
      work.filter (·.resource.phase.rank = resource.phase.rank) :=
  List.filter_congr fun item _ => by simp [eq_iff_rank isNode]

/-- The items of a resource of nodes stay in their order. -/
theorem ofResource_inPhases {resource : Resource} (isNode : resource.table = .node)
    (work : List WorkItem) : ofResource resource (inPhases work) = ofResource resource work := by
  rw [ofResource_eq_filter isNode, ofResource_eq_filter isNode]
  exact filter_mergeSort_rank (fun item : WorkItem => item.resource.phase.rank) _ work

/-- The item of a node. -/
def nodeItem (resource : Resource) (entry : String × NodeTemplate) : WorkItem :=
  { name := entry.1, entity := .node entry.2, resource := resource }

/-- The resources of nodes, in the order of their phases. -/
def nodeResources : List Resource :=
  [.virtualLink, .vdu, .vnf, .connectionPoint, .forwardingPath]

theorem table_of_mem_nodeResources :
    ∀ resource ∈ nodeResources, resource.table = .node := by
  decide

/-- The items of groups and policies. -/
def otherItems (work : List WorkItem) : List WorkItem :=
  work.filter (·.resource.table ≠ .node)

/-- The nodes of a template are translated resource by resource, then its groups and policies. -/
theorem inPhases_workOf {template : Template} {strict : Bool} {work : List WorkItem}
    (made : workOf template strict (Entity.ofTopology template.topology) = .ok work) :
    inPhases work =
      nodeResources.flatMap (fun resource => (nodesOf template resource).map (nodeItem resource)) ++
        inPhases (otherItems work) := by
  have nodes : ∀ resource ∈ nodeResources,
      work.filter (·.resource.phase.rank = resource.phase.rank) =
        (nodesOf template resource).map (nodeItem resource) := fun resource member => by
    have isNode := table_of_mem_nodeResources resource member
    rw [← ofResource_eq_filter isNode, ofResource_workOf made isNode]
    rfl
  have early : ∀ resource ∈ nodeResources,
      (otherItems work).filter (·.resource.phase.rank = resource.phase.rank) = [] := by
    refine fun resource isNode => List.filter_eq_nil_iff.mpr fun item member => ?_
    have other : item.resource.table ≠ .node := by simpa using (List.mem_filter.mp member).2
    rw [decide_eq_true_iff, ← eq_iff_rank (table_of_mem_nodeResources resource isNode)]
    rintro rfl
    exact other (table_of_mem_nodeResources _ isNode)
  have late : ∀ resource ∈ [Resource.forwardingGraph, .placement],
      (otherItems work).filter (·.resource.phase.rank = resource.phase.rank) =
        work.filter (·.resource.phase.rank = resource.phase.rank) := by
    refine fun resource other => ?_
    rw [otherItems, List.filter_filter]
    refine List.filter_congr fun item _ => ?_
    rcases List.mem_pair.mp other with rfl | rfl <;> cases item.resource <;> rfl
  have ranks : List.range 7 = (nodeResources ++ [Resource.forwardingGraph, .placement]).map
      fun resource => resource.phase.rank := by decide
  rw [inPhases_eq, inPhases_eq, ranks, List.flatMap_map, List.flatMap_map, List.flatMap_append,
    List.flatMap_append, List.flatMap_congr nodes, List.flatMap_congr early,
    List.flatMap_congr late]
  simp

/-- The other items are those of the groups and policies. -/
theorem otherItems_workOf {template : Template} {strict : Bool} {work : List WorkItem}
    (made : workOf template strict (Entity.ofTopology template.topology) = .ok work) :
    otherItems work = (otherEntities template.topology).filterMap (itemOf? template) := by
  have tables {entries : List (String × Entity)} {item : WorkItem}
      (member : item ∈ entries.filterMap (itemOf? template)) :
      ∃ entry ∈ entries, item.resource.table = entry.2.table := by
    obtain ⟨entry, inEntries, itemIs⟩ := List.mem_filterMap.mp member
    exact ⟨entry, inEntries, table_of_resolve (itemOf?_eq_some.mp itemIs).1⟩
  rw [workOf_ok made, ofTopology_eq, List.filterMap_append, otherItems, List.filter_append,
    List.filter_eq_nil_iff.mpr, List.nil_append, List.filter_eq_self]
  · intro item member
    obtain ⟨entry, isOther, same⟩ := tables member
    simpa [same] using table_of_mem_otherEntities isOther
  · intro item member
    obtain ⟨entry, inNodes, same⟩ := tables member
    obtain ⟨_, -, rfl⟩ := List.mem_map.mp inNodes
    simp [same, Entity.table]

/-! ## The phases of nodes -/

/-- The phase that a node is handled in, if its type belongs to a resource. -/
def phaseOf? (template : Template) (node : NodeTemplate) : Option Phase :=
  match Resource.resolve template .node node.nodeType with
  | .ok (some resource) => some resource.phase
  | _ => none

/-- The nodes that are handled in a phase, in document order. -/
def nodesIn (template : Template) (phase : Phase) : List (String × NodeTemplate) :=
  template.topology.nodes.entries.filter fun entry => phaseOf? template entry.2 = some phase

/-- The nodes of a resource are those of its phase. -/
theorem nodesIn_phase (template : Template) {resource : Resource}
    (isNode : resource.table = .node) :
    nodesIn template resource.phase = nodesOf template resource := by
  refine List.filter_congr fun entry _ => ?_
  rw [decide_eq_decide, phaseOf?]
  rcases Resource.resolve template .node entry.2.nodeType with error | _ | other
  · simp [Except.toOption]
  · simp [Except.toOption]
  · have same := eq_iff_rank isNode other
    simp only [Except.toOption, Option.some.injEq, same]
    exact ⟨congrArg Phase.rank, fun ranks => congrArg Resource.phase (same.mpr ranks)⟩

private theorem nodePhases_workOf {template : Template} {strict : Bool} {work : List WorkItem}
    (made : workOf template strict (Entity.ofTopology template.topology) = .ok work) :
    nodePhases work = template.topology.nodes.entries.filterMap fun entry =>
      (phaseOf? template entry.2).map fun phase => (entry.1, phase) := by
  have others : nodePhases ((otherEntities template.topology).filterMap (itemOf? template)) =
      [] := by
    refine List.filterMap_eq_nil_iff.mpr fun item member => ?_
    obtain ⟨entry, isOther, itemIs⟩ := List.mem_filterMap.mp member
    have other := table_of_mem_otherEntities isOther
    rw [(itemOf?_eq_some.mp itemIs).2] at other
    cases entity : item.entity <;> simp_all [Entity.table]
  rw [nodePhases] at others
  rw [workOf_ok made, ofTopology_eq, List.filterMap_append, nodePhases, List.filterMap_append,
    others, List.append_nil, List.filterMap_filterMap, List.filterMap_map]
  refine List.filterMap_congr fun entry _ => ?_
  rcases resolved : Resource.resolve template .node entry.2.nodeType with error | _ | resource <;>
    simp [itemOf?, phaseOf?, Entity.table, Entity.typeName, resolved]

/-- The phase of a node is found under its name. -/
theorem phase?_eq {template : Template} {strict : Bool} {work : List WorkItem}
    (made : workOf template strict (Entity.ofTopology template.topology) = .ok work)
    (freshId : Nat → String) (node : String) :
    Surroundings.phase? ⟨template, nodePhases work, freshId⟩ node =
      (template.topology.nodes.get? node).bind (phaseOf? template) := by
  rw [Surroundings.phase?, nodePhases_workOf made]
  exact find?_filterMap_key template.topology.nodes.distinct (phaseOf? template) node

/-- A node of a phase is the node of an item of this phase. -/
private theorem exists_mem_of_knows {template : Template} {freshId : Nat → String}
    {work : List WorkItem} {target : String} {phase : Phase}
    (known : Surroundings.Knows ⟨template, nodePhases work, freshId⟩ target phase) :
    ∃ item ∈ work, item.name = target ∧ item.resource.phase = phase := by
  obtain ⟨-, phased⟩ := known
  simp only [Surroundings.phase?, Option.map_eq_some_iff] at phased
  obtain ⟨entry, found, rfl⟩ := phased
  have named : entry.1 = target := by simpa using List.find?_some found
  obtain ⟨item, inWork, itsPhase⟩ := List.mem_filterMap.mp (List.mem_of_find?_eq_some found)
  have itsPhase : (item.name, item.resource.phase) = entry := by
    split at itsPhase <;> simp_all
  subst itsPhase
  exact ⟨item, inWork, named, rfl⟩

/-- A node of the phase of a resource is a node of this resource. -/
theorem mem_nodesOf_of_knows {template : Template} {strict : Bool} {freshId : Nat → String}
    {work : List WorkItem} {target : String} {resource : Resource}
    (made : workOf template strict (Entity.ofTopology template.topology) = .ok work)
    (isNode : resource.table = .node)
    (known : Surroundings.Knows ⟨template, nodePhases work, freshId⟩ target resource.phase) :
    ∃ node, (target, node) ∈ nodesOf template resource := by
  obtain ⟨item, inWork, rfl, phase⟩ := exists_mem_of_knows known
  have same : item.resource = resource := (eq_iff_rank isNode _).mpr (congrArg Phase.rank phase)
  have listed : item ∈ ofResource resource work := mem_ofResource.mpr ⟨inWork, same⟩
  rw [ofResource_workOf made isNode] at listed
  obtain ⟨entry, inNodes, rfl⟩ := List.mem_map.mp listed
  exact ⟨entry.2, inNodes⟩

/-- When the turn of an item comes, the nodes of earlier phases are done. -/
theorem mem_done_of_knows {template : Template} {freshId : Nat → String}
    {work done rest : List WorkItem} {item : WorkItem} {target : String} {phase : Phase}
    (split : inPhases work = done ++ item :: rest)
    (known : Surroundings.Knows ⟨template, nodePhases work, freshId⟩ target phase)
    (earlier : phase.rank < item.resource.phase.rank) :
    ∃ other ∈ done, other.name = target ∧ other.resource.phase = phase := by
  obtain ⟨other, inWork, named, rfl⟩ := exists_mem_of_knows known
  have sorted := sorted_mergeSort (fun item : WorkItem => item.resource.phase.rank) work
  have inOrder : other ∈ inPhases work := List.mem_mergeSort.mpr inWork
  rw [split] at inOrder
  rw [← inPhases, split] at sorted
  refine ⟨other, (List.mem_append.mp inOrder).resolve_right fun later => ?_, named, rfl⟩
  rcases List.mem_cons.mp later with rfl | later
  · exact absurd earlier (Nat.lt_irrefl _)
  · have tail := (List.pairwise_append.mp sorted).2.1
    exact absurd earlier (Nat.not_lt.mpr ((List.pairwise_cons.mp tail).1 other later))

end NfvCatalog.Translation
