import Mathlib.Data.List.Flatten
import NfvCatalog.Proofs.Translation.Layout
import NfvCatalog.Proofs.Translation.Phases

/-! # The work of a layout

Every node, group and policy of a layout's template belongs to a resource, so each makes an item of
work. In the order of phases that is links, machines, functions, connection points, paths, graphs
and policies, each in document order; and a translation knows the phase of every node.
-/

namespace NfvCatalog.Translation

open Tosca

/-! ## Items -/

/-- The work of a link. -/
def linkItem (link : String × Vld) : WorkItem :=
  { name := link.1, entity := .node (linkNode link.2), resource := .virtualLink }

/-- The work of a machine. -/
def machineItem (machine : String × Vdu) : WorkItem :=
  { name := machine.1, entity := .node (machineNode machine.2), resource := .vdu }

/-- The work of a constituent's VNF. -/
def functionItem (inService : Bool) (m : MemberNodes) : WorkItem :=
  { name := m.vnf
    entity := .node (functionNode m.vnfd m.member inService m.machines)
    resource := .vnf }

/-- The work of an interface. -/
def pointItem (links : NamedLinks) (m : MemberNodes)
    (entry : String × (String × Vdu) × ExternalInterface) : WorkItem :=
  { name := entry.1
    entity := .node (interfaceNode m.vnfd m.member.index links entry.2.1.1 entry.2.2)
    resource := .connectionPoint }

/-- The work of a path. -/
def pathItem (members : List MemberNodes) (path : String × ServicePath) : WorkItem :=
  { name := path.1, entity := .node (pathNode members path.2), resource := .forwardingPath }

/-- The work of a graph. -/
def graphItem (g : GraphNodes) : WorkItem :=
  { name := g.group
    entity := .group (graphGroup g.graph (g.paths.map Prod.fst))
    resource := .forwardingGraph }

/-- The work of a scaling group. -/
def scalingItem (members : List MemberNodes) (group : String × ScalingGroup) : WorkItem :=
  { name := group.1, entity := .policy (scalingPolicy members group.2), resource := .scalingGroup }

/-- The work of a placement group. -/
def placementItem (members : List MemberNodes) (group : String × PlacementGroup) : WorkItem :=
  { name := group.1, entity := .policy (placementPolicy members group.2), resource := .placement }

/-- The work of an initial primitive. -/
def primitiveItem (primitive : String × ConfigPrimitive) : WorkItem :=
  { name := primitive.1
    entity := .policy (primitivePolicy primitive.2)
    resource := .initialConfig }

/-- The work of a constituent in document order. -/
def MemberNodes.items (m : MemberNodes) (inService : Bool) (links : NamedLinks) : List WorkItem :=
  functionItem inService m :: m.machines.map machineItem ++ m.interfaces.map (pointItem links m)

namespace Layout

/-- The work of a layout in document order. -/
def items (layout : Layout) (inService : Bool) : List WorkItem :=
  layout.links.map linkItem ++ layout.members.flatMap (·.items inService layout.links) ++
    layout.graphs.flatMap (fun g => g.paths.map (pathItem layout.members)) ++
    layout.graphs.map graphItem ++ layout.scaling.map (scalingItem layout.members) ++
    layout.placements.map (placementItem layout.members) ++ layout.primitives.map primitiveItem

end Layout

/-! ## Resources -/

private theorem resolve_of_undeclared {template : Template} {table : TypeTable}
    (undeclared : template.types table = .empty) (name : String) :
    Resource.resolve template table name = .ok (Resource.ofType? table name) := by
  have chain : template.typeChain table name = .ok [name] := by
    simp [Template.typeChain, undeclared, typeChain, ancestors?, parentType?, OrderedMap.get?]
  simp [Resource.resolve, Registry.resolve, Resource.registry, chain]

/-- Entities that belong to resources make the work of these resources. -/
theorem workOf_of_owned {template : Template}
    (undeclared : ∀ table, template.types table = .empty) (strict : Bool) {items : List WorkItem}
    (owned : ∀ item ∈ items,
      Resource.ofType? item.entity.table item.entity.typeName = some item.resource) :
    workOf template strict (items.map fun item => (item.name, item.entity)) = .ok items := by
  induction items with
  | nil => rfl
  | cons item rest ih =>
    have first := owned item (List.mem_cons_self ..)
    have others := ih fun other member => owned other (List.mem_cons_of_mem _ member)
    simp only [List.map_cons, workOf, resolve_of_undeclared (undeclared _), first, others]
    rfl

/-- A type belongs to the resource that lists it. -/
theorem ofType?_of_mem_typeNames (resource : Resource) :
    ∀ name ∈ resource.typeNames, Resource.ofType? resource.table name = some resource := by
  cases resource <;> decide

private theorem linkNode_owned (vld : Vld) :
    (linkNode vld).nodeType ∈ Resource.virtualLink.typeNames := by
  by_cases line : vld.linkType.map Text.asciiUpper = some "ELINE" <;>
    simp [linkNode, line, Resource.typeNames]

/-- Every item of a layout belongs to its resource. -/
theorem Layout.items_owned (layout : Layout) (inService : Bool) :
    ∀ item ∈ layout.items inService,
      Resource.ofType? item.entity.table item.entity.typeName = some item.resource := by
  intro item member
  simp only [Layout.items, MemberNodes.items, List.mem_append, List.mem_map, List.mem_flatMap,
    List.mem_cons] at member
  rcases member with ((((((⟨link, -, rfl⟩ | ⟨m, -, (rfl | ⟨_, -, rfl⟩) | ⟨_, -, rfl⟩⟩) |
    ⟨_, -, _, -, rfl⟩) | ⟨_, -, rfl⟩) | ⟨_, -, rfl⟩) | ⟨_, -, rfl⟩) | ⟨_, -, rfl⟩)
  · exact ofType?_of_mem_typeNames .virtualLink _ (linkNode_owned link.2)
  · exact ofType?_of_mem_typeNames .vnf "tosca.nodes.nfv.VNF" (by decide)
  · exact ofType?_of_mem_typeNames .vdu "tosca.nodes.nfv.VDU" (by decide)
  · exact ofType?_of_mem_typeNames .connectionPoint "tosca.nodes.nfv.CP" (by decide)
  · exact ofType?_of_mem_typeNames .forwardingPath "tosca.nodes.nfv.FP" (by decide)
  · exact ofType?_of_mem_typeNames .forwardingGraph "tosca.groups.nfv.VNFFG" (by decide)
  · exact ofType?_of_mem_typeNames .scalingGroup "tosca.policies.riftio.ScalingGroup" (by decide)
  · exact ofType?_of_mem_typeNames .placement "tosca.policies.nfv.riftio.placement" (by decide)
  · exact ofType?_of_mem_typeNames .initialConfig "tosca.policies.riftio.InitialConfigPrimitive"
      (by decide)

/-! ## Entities -/

namespace Layout

variable {layout : Layout}

/-- The names of nodes in document order. -/
theorem names_nodes (layout : Layout) (inService : Bool) :
    (layout.nodes inService).map Prod.fst =
      layout.links.map Prod.fst ++ layout.members.flatMap (·.names) ++
        layout.graphs.flatMap fun g => g.paths.map Prod.fst := by
  simp [Layout.nodes, MemberNodes.nodes, MemberNodes.names, List.map_flatMap, Function.comp_def]

private theorem nodup_nodes (distinct : layout.names.Nodup) (inService : Bool) :
    ((layout.nodes inService).map Prod.fst).Nodup := by
  rw [names_nodes]
  refine distinct.sublist ((List.Sublist.refl _).append ?_)
  exact List.Sublist.flatMap_right _ fun g _ => List.sublist_append_left ..

private theorem nodup_groups (distinct : layout.names.Nodup) :
    (layout.groups.map Prod.fst).Nodup := by
  have names : layout.groups.map Prod.fst = layout.graphs.map (·.group) := by
    simp [Layout.groups, Function.comp_def]
  rw [names, List.map_eq_flatMap]
  refine (List.Nodup.of_append_right distinct).sublist ?_
  exact List.Sublist.flatMap_right _ fun g _ => List.sublist_append_right ..

theorem nodes_template (distinct : layout.names.Nodup) (nsd : Nsd) (inService : Bool) :
    (layout.template nsd inService).topology.nodes.entries = layout.nodes inService :=
  OrderedMap.entries_ofList (nodup_nodes distinct inService)

theorem groups_template (distinct : layout.names.Nodup) (nsd : Nsd) (inService : Bool) :
    (layout.template nsd inService).topology.groups.entries = layout.groups :=
  OrderedMap.entries_ofList (nodup_groups distinct)

/-- The entities of a layout's template are its items. -/
theorem ofTopology_template (distinct : layout.names.Nodup) (nsd : Nsd) (inService : Bool) :
    Entity.ofTopology (layout.template nsd inService).topology =
      (layout.items inService).map fun item => (item.name, item.entity) := by
  have policies : (layout.template nsd inService).topology.policyPairs = layout.policies := by
    simp [Layout.template, Topology.policyPairs, List.flatMap_map]
  simp only [Entity.ofTopology, policies, nodes_template distinct, groups_template distinct]
  simp [Layout.nodes, Layout.groups, Layout.policies, Layout.items, MemberNodes.nodes,
    MemberNodes.items, List.map_flatMap, linkItem, machineItem, functionItem, pointItem, pathItem,
    graphItem, scalingItem, placementItem, primitiveItem, Function.comp_def]

/-- The template of a layout makes the layout's work. -/
theorem workOf_template (distinct : layout.names.Nodup) (nsd : Nsd) (inService strict : Bool) :
    workOf (layout.template nsd inService) strict
      (Entity.ofTopology (layout.template nsd inService).topology) =
        .ok (layout.items inService) := by
  rw [ofTopology_template distinct]
  exact workOf_of_owned (fun table => by cases table <;> rfl) strict
    (layout.items_owned inService)

/-! ## Phases -/

/-- The work of a layout in the order of phases. -/
theorem inPhases_items (layout : Layout) (inService : Bool) :
    inPhases (layout.items inService) =
      layout.links.map linkItem ++ layout.members.flatMap (fun m => m.machines.map machineItem) ++
        layout.members.map (functionItem inService) ++
        layout.members.flatMap (fun m => m.interfaces.map (pointItem layout.links m)) ++
        layout.graphs.flatMap (fun g => g.paths.map (pathItem layout.members)) ++
        layout.graphs.map graphItem ++ layout.scaling.map (scalingItem layout.members) ++
        layout.placements.map (placementItem layout.members) ++
        layout.primitives.map primitiveItem := by
  rw [inPhases_eq]
  have nothing {α : Type} (list : List α) : list.flatMap (fun _ => ([] : List WorkItem)) = [] := by
    simp
  simp [List.range_succ, Layout.items, MemberNodes.items, List.filter_flatMap, List.filter_map,
    Function.comp_def, linkItem, machineItem, functionItem, pointItem, pathItem, graphItem,
    scalingItem, placementItem, primitiveItem, Resource.phase, Phase.rank, nothing,
    ← List.map_eq_flatMap]

end Layout

/-! ## What a translation knows -/

namespace Layout

/-- What stays fixed when a layout's template is translated. -/
def surroundings (layout : Layout) (nsd : Nsd) (inService : Bool) (freshId : Nat → String) :
    Surroundings :=
  ⟨layout.template nsd inService, nodePhases (layout.items inService), freshId⟩

private theorem mem_items_of_mem {layout : Layout} (inService : Bool) {m : MemberNodes}
    (inLayout : m ∈ layout.members) {item : WorkItem}
    (member : item ∈ m.items inService layout.links) : item ∈ layout.items inService := by
  have inMembers : item ∈ layout.members.flatMap (·.items inService layout.links) :=
    List.mem_flatMap_of_mem inLayout member
  simp [Layout.items, inMembers]

variable {layout : Layout} (distinct : layout.names.Nodup) (nsd : Nsd) (inService : Bool)
  (freshId : Nat → String)
include distinct

private theorem nodup_nodePhases :
    ((nodePhases (layout.items inService)).map Prod.fst).Nodup := by
  have names : (nodePhases (layout.items inService)).map Prod.fst =
      (layout.nodes inService).map Prod.fst := by
    simp [nodePhases, Layout.items, MemberNodes.items, Layout.nodes, MemberNodes.nodes,
      List.filterMap_flatMap, List.filterMap_map, List.map_flatMap, linkItem, machineItem,
      functionItem, pointItem, pathItem, graphItem, scalingItem, placementItem, primitiveItem,
      Function.comp_def]
  rw [names]
  exact nodup_nodes distinct inService

/-- A translation knows the node of every item. -/
theorem knows_of_mem (item : WorkItem) {node : NodeTemplate}
    (member : item ∈ layout.items inService) (isNode : item.entity = .node node) :
    (layout.surroundings nsd inService freshId).Knows item.name item.resource.phase := by
  constructor
  · have entity : (item.name, Entity.node node) ∈
        Entity.ofTopology (layout.template nsd inService).topology := by
      rw [ofTopology_template distinct, ← isNode]
      exact List.mem_map_of_mem member
    have entry : (item.name, node) ∈ (layout.template nsd inService).topology.nodes.entries := by
      simpa [Entity.ofTopology] using entity
    exact OrderedMap.contains_of_mem _ entry
  · have phase : (item.name, item.resource.phase) ∈ nodePhases (layout.items inService) :=
      List.mem_filterMap.mpr ⟨item, member, by rw [isNode]⟩
    simp only [Surroundings.phase?, Layout.surroundings]
    rw [find?_key Prod.fst (nodup_nodePhases distinct inService) phase]
    rfl

theorem knows_link {link : String × Vld} (member : link ∈ layout.links) :
    (layout.surroundings nsd inService freshId).Knows link.1 .virtualLink :=
  knows_of_mem distinct nsd inService freshId (linkItem link)
    (by simp [Layout.items, List.mem_map_of_mem member]) rfl

variable {m : MemberNodes} (inLayout : m ∈ layout.members)
include inLayout

theorem knows_function : (layout.surroundings nsd inService freshId).Knows m.vnf .vnf :=
  knows_of_mem distinct nsd inService freshId (functionItem inService m)
    (mem_items_of_mem inService inLayout (List.mem_cons_self ..)) rfl

theorem knows_machine {machine : String × Vdu} (member : machine ∈ m.machines) :
    (layout.surroundings nsd inService freshId).Knows machine.1 .vdu :=
  knows_of_mem distinct nsd inService freshId (machineItem machine)
    (mem_items_of_mem inService inLayout
      (by simp [MemberNodes.items, List.mem_map_of_mem member])) rfl

theorem knows_point {entry : String × (String × Vdu) × ExternalInterface}
    (member : entry ∈ m.interfaces) :
    (layout.surroundings nsd inService freshId).Knows entry.1 .connectionPoint :=
  knows_of_mem distinct nsd inService freshId (pointItem layout.links m entry)
    (mem_items_of_mem inService inLayout
      (by simp [MemberNodes.items, List.mem_map_of_mem member])) rfl

end Layout

end NfvCatalog.Translation
