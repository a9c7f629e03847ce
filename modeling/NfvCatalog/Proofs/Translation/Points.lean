import NfvCatalog.Proofs.Translation.Functions

/-! # Connection points and paths that come back

Connection points are drafted from the nodes of interfaces, and paths and graphs lead through the
points that were drafted.
-/

/-! ## Connection points that come back

The node of an interface becomes a connection point of the function, an interface of the machine
that it is bound to, and a reference on each link that the point is on. So after all of them every
function has one point for each of its interfaces, in order.
-/

namespace NfvCatalog.Translation

open Tosca

/-- The node of an interface, with its machine. -/
abbrev InterfaceNode := String × (String × Vdu) × ExternalInterface

/-! ### Interfaces -/

/-- Give an interface to the first machine with an id. -/
def giveInterface (id : String) (interface : ExternalInterface) : List Vdu → List Vdu
  | [] => []
  | vdu :: rest =>
    if vdu.id = id then { vdu with interfaces := vdu.interfaces ++ [interface] } :: rest
    else vdu :: giveInterface id interface rest

/-- Interfaces given one by one are given together. -/
theorem withInterfaces_cons (id : String) (interface : ExternalInterface)
    (named : List (String × ExternalInterface)) (vdus : List Vdu) :
    withInterfaces ((id, interface) :: named) vdus =
      withInterfaces named (giveInterface id interface vdus) := by
  induction vdus generalizing named with
  | nil => rfl
  | cons vdu rest ih =>
    by_cases own : vdu.id = id
    · simp [withInterfaces, giveInterface, own]
    · have other : id ≠ vdu.id := fun same => own same.symm
      simp [withInterfaces, giveInterface, own, other, ih]

theorem withInterfaces_nil (vdus : List Vdu) : withInterfaces [] vdus = vdus := by
  induction vdus with
  | nil => rfl
  | cons vdu rest ih => simp [withInterfaces, ih]

/-- A descriptor with more interfaces and their connection points. -/
def attachAll (source : Vnfd) (entries : List (Vdu × ExternalInterface)) (vnfd : Vnfd) : Vnfd :=
  { vnfd with
    points := vnfd.points ++ entries.map fun (_, interface) =>
      { name := interface.pointRef, pointType := pointTypeOf source interface.pointRef }
    vdus := withInterfaces
      (entries.map fun (vdu, interface) => (vdu.id, restoredInterface interface)) vnfd.vdus }

theorem attachAll_nil (source vnfd : Vnfd) : attachAll source [] vnfd = vnfd := by
  simp [attachAll, withInterfaces_nil]

theorem attachAll_cons (source : Vnfd) (entry : Vdu × ExternalInterface)
    (entries : List (Vdu × ExternalInterface)) (vnfd : Vnfd) :
    attachAll source (entry :: entries) vnfd =
      attachAll source entries (attachAll source [entry] vnfd) := by
  simp [attachAll, withInterfaces_cons, withInterfaces_nil]

/-- All interfaces of a function make its descriptor whole. -/
theorem attachAll_bareVnfd (vnfd : Vnfd) :
    attachAll vnfd vnfd.interfaces (bareVnfd vnfd) = restoredVnfd vnfd := by
  simp [attachAll, bareVnfd, restoredVnfd, restoredPoints]

private theorem attachInterface_written (source : Vnfd) (member : UInt32) (links : NamedLinks)
    (machine id : String) (interface : ExternalInterface) (vdus : List Vdu) :
    attachInterface id interface.pointRef
      (interfaceNode source member links machine interface).properties vdus =
        giveInterface id (restoredInterface interface) vdus := by
  induction vdus with
  | nil => rfl
  | cons vdu rest ih =>
    by_cases own : vdu.id = id
    · simp [attachInterface, giveInterface, own, interfaceNode, Value.Entries.text?,
        restoredInterface]
    · simp [attachInterface, giveInterface, own, ih]

private theorem attachPoint_written (source : Vnfd) (member : UInt32) (links : NamedLinks)
    (machine : String × Vdu) (interface : ExternalInterface) (vnfd : Vnfd) :
    attachPoint machine.2.id interface.pointRef
      (interfaceNode source member links machine.1 interface).properties vnfd =
        attachAll source [(machine.2, interface)] vnfd := by
  rw [attachPoint, attachInterface_written]
  simp [attachAll, withInterfaces_cons, withInterfaces_nil, interfaceNode, Value.Entries.text?,
    pointTypeOf]

/-! ### Connection points -/

/-- The draft of a connection point of the function at a place. -/
def pointDraft (place : Nat) (entry : InterfaceNode) : PointDraft :=
  { node := entry.1, function := place, name := entry.2.2.pointRef }

private theorem targets_virtualBinding (vnfd : Vnfd) (member : UInt32) (links : NamedLinks)
    (machine : String) (interface : ExternalInterface) :
    (interfaceNode vnfd member links machine interface).targets "virtualBinding" = [machine] := by
  simp [interfaceNode, NodeTemplate.targets, NodeTemplate.requirementPairs, List.flatMap_map,
    RequirementTarget.nodeName, List.filter_flatMap]

private theorem targets_virtualLink (vnfd : Vnfd) (member : UInt32) (links : NamedLinks)
    (machine : String) (interface : ExternalInterface) :
    (interfaceNode vnfd member links machine interface).targets "virtualLink" =
      linksOf links member interface.pointRef := by
  simp [interfaceNode, NodeTemplate.targets, NodeTemplate.requirementPairs, List.flatMap_map,
    RequirementTarget.nodeName, List.filter_flatMap, List.map_flatMap]

/-- The references that interfaces put on a link, as owned by the function at a place. -/
def linkedPoints (links : NamedLinks) (member : UInt32) (place : Nat) (node : String)
    (entries : List InterfaceNode) : List (Nat × String) :=
  entries.flatMap fun entry =>
    List.replicate ((linksOf links member entry.2.2.pointRef).count node)
      (place, entry.2.2.pointRef)

/-- Drafts with interfaces of a constituent attached to the function at a place. -/
def attachEntries (links : NamedLinks) (m : MemberNodes) (place : Nat)
    (entries : List InterfaceNode) (d : Drafts) : Drafts :=
  { d with
    functions := d.functions.modify place fun function =>
      { function with
        vnfd := attachAll m.vnfd (entries.map fun entry => (entry.2.1.2, entry.2.2))
          function.vnfd }
    links := d.links.map fun link =>
      { link with
        points := link.points ++ linkedPoints links m.member.index place link.node entries }
    points := d.points ++ entries.map (pointDraft place) }

private theorem attachEntries_nil (links : NamedLinks) (m : MemberNodes) (place : Nat)
    (d : Drafts) : attachEntries links m place [] d = d := by
  have same : d.functions.modify place (fun function => function) = d.functions :=
    List.modify_id place d.functions
  simp [attachEntries, attachAll_nil, linkedPoints, same]

private theorem attachEntries_cons (links : NamedLinks) (m : MemberNodes) (place : Nat)
    (entry : InterfaceNode) (entries : List InterfaceNode) (d : Drafts) :
    attachEntries links m place (entry :: entries) d =
      attachEntries links m place entries (attachEntries links m place [entry] d) := by
  simp only [attachEntries, List.map_cons, List.map_nil, List.modify_modify_eq, List.map_map,
    List.append_assoc, List.cons_append, List.nil_append, linkedPoints, List.flatMap_cons,
    List.flatMap_nil, List.append_nil, attachAll_cons m.vnfd _ (entries.map _), Function.comp_def]

/-- The node of an interface is attached to the function that owns its machine. -/
theorem addPoint_interfaceNode {s : Surroundings} {m : MemberNodes} {links : NamedLinks}
    (linksKnown : ∀ link ∈ links, s.Knows link.1 .virtualLink) {entry : InterfaceNode}
    (machineKnown : s.Knows entry.2.1.1 .vdu) {place : Nat} {d : Drafts}
    (bound : d.machines.find? (·.node = entry.2.1.1) = some (machineDraft (some place) entry.2.1))
    (distinct : (d.links.map (·.node)).Nodup) :
    (pointItem links m entry).run s d = .ok (attachEntries links m place [entry] d) := by
  obtain ⟨name, machine, interface⟩ := entry
  have machineFound : (d.machinePlace? machine.1).bind (d.machines[·]?) =
      some (machineDraft (some place) machine) := by
    rw [Drafts.machinePlace?, ← List.find?_eq_bind_findIdx?_getElem?]
    exact bound
  have pointName : nameOf (interfaceNode m.vnfd m.member.index links machine.1 interface).properties
      name = interface.pointRef := by
    simp [nameOf, interfaceNode, Value.Entries.text?]
  have targetsKnown : ∀ target ∈ linksOf links m.member.index interface.pointRef,
      s.Knows target .virtualLink := by
    intro target member
    simp only [linksOf, List.mem_flatMap, List.mem_map] at member
    obtain ⟨link, inLinks, _, -, rfl⟩ := member
    exact linksKnown link inLinks
  have binding : boundMachine s name (interfaceNode m.vnfd m.member.index links machine.1 interface)
      d = .ok (machineDraft (some place) machine) := by
    rw [boundMachine, targets_virtualBinding]
    simp [machineKnown.requireTarget, machineFound]
  have attach (function : Vnfd) : attachPoint (restoredVdu machine.2).id interface.pointRef
      (interfaceNode m.vnfd m.member.index links machine.1 interface).properties function =
        attachAll m.vnfd [(machine.2, interface)] function :=
    attachPoint_written m.vnfd m.member.index links machine interface function
  have joins := @joinLinks_known s name place interface.pointRef _ targetsKnown
    { d with functions := d.functions.modify place fun function =>
        { function with vnfd := attachAll m.vnfd [(machine.2, interface)] function.vnfd } } distinct
  have run : (pointItem links m (name, machine, interface)).run s d =
    addPoint s name (interfaceNode m.vnfd m.member.index links machine.1 interface) d := rfl
  rw [run, addPoint, binding, ok_bind]
  simp only [machineDraft, pointName, targets_virtualLink, attach, joins, ok_bind]
  simp [attachEntries, linkedPoints, joined, pointDraft]

/-- The interfaces of one constituent are attached in order. -/
theorem runWork_memberPoints {s : Surroundings} {m : MemberNodes} {links : NamedLinks}
    (linksKnown : ∀ link ∈ links, s.Knows link.1 .virtualLink) (place : Nat)
    {entries : List InterfaceNode} (machinesKnown : ∀ entry ∈ entries, s.Knows entry.2.1.1 .vdu)
    {d : Drafts} (bound : ∀ entry ∈ entries, d.machines.find? (·.node = entry.2.1.1) =
      some (machineDraft (some place) entry.2.1))
    (distinct : (d.links.map (·.node)).Nodup) :
    runWork s (entries.map (pointItem links m)) d =
      .ok (attachEntries links m place entries d) := by
  induction entries generalizing d with
  | nil => simp [runWork, attachEntries_nil]
  | cons entry rest ih =>
    have first := addPoint_interfaceNode linksKnown (machinesKnown entry (List.mem_cons_self ..))
      (m := m) (bound entry (List.mem_cons_self ..)) distinct
    have others := ih (fun other member => machinesKnown other (List.mem_cons_of_mem _ member))
      (d := attachEntries links m place [entry] d)
      (fun other member => bound other (List.mem_cons_of_mem _ member))
      (by simpa [attachEntries, Function.comp_def] using distinct)
    rw [List.map_cons, runWork, first, ok_bind, others]
    exact congrArg Except.ok (attachEntries_cons links m place entry rest d).symm

/-- The draft of a constituent with all of its interfaces. -/
def wholeDraft (inService : Bool) (m : MemberNodes) : FunctionDraft :=
  { functionDraft inService m with vnfd := restoredVnfd m.vnfd }

/-- The interfaces of a complete constituent are those of its descriptor. -/
theorem MemberNodes.Complete.interfaces_eq {m : MemberNodes} (complete : m.Complete) :
    m.interfaces.map (fun entry => (entry.2.1.2, entry.2.2)) = m.vnfd.interfaces := by
  have pairs : m.interfaces.map (fun entry => (entry.2.1.2, entry.2.2)) =
      (m.interfaces.map Prod.snd).map fun pair => (pair.1.2, pair.2) := by
    simp
  rw [pairs, complete.interfaces, Vnfd.interfaces, ← complete.machines, List.map_flatMap,
    List.flatMap_map]
  simp [Function.comp_def]

/-- The machine of an interface is one of the constituent's. -/
theorem MemberNodes.Complete.mem_machines {m : MemberNodes} (complete : m.Complete)
    {entry : InterfaceNode} (member : entry ∈ m.interfaces) : entry.2.1 ∈ m.machines := by
  have pair : entry.2 ∈ m.interfaces.map Prod.snd := List.mem_map_of_mem member
  rw [complete.interfaces] at pair
  simp only [List.mem_flatMap, List.mem_map] at pair
  obtain ⟨machine, inMachines, _, -, same⟩ := pair
  rw [← same]
  exact inMachines

/-- The interfaces of all constituents are attached, which makes their descriptors whole. -/
theorem runWork_points {s : Surroundings} {links : NamedLinks} (inService : Bool)
    (linksKnown : ∀ link ∈ links, s.Knows link.1 .virtualLink) {members : List MemberNodes}
    (complete : ∀ m ∈ members, m.Complete)
    (machinesKnown : ∀ m ∈ members, ∀ machine ∈ m.machines, s.Knows machine.1 .vdu)
    {before : List FunctionDraft} {d : Drafts}
    (functions : d.functions = before ++ members.map (functionDraft inService))
    (bound : ∀ entry ∈ members.zipIdx before.length, ∀ machine ∈ entry.1.machines,
      d.machines.find? (·.node = machine.1) = some (machineDraft (some entry.2) machine))
    (distinct : (d.links.map (·.node)).Nodup) :
    runWork s (members.flatMap fun m => m.interfaces.map (pointItem links m)) d = .ok { d with
      functions := before ++ members.map (wholeDraft inService)
      links := d.links.map fun link =>
        { link with points := link.points ++ (members.zipIdx before.length).flatMap fun entry =>
            linkedPoints links entry.1.member.index entry.2 link.node entry.1.interfaces }
      points := d.points ++ (members.zipIdx before.length).flatMap fun entry =>
        entry.1.interfaces.map (pointDraft entry.2) } := by
  induction members generalizing before d with
  | nil =>
    have same : before = d.functions := by simpa using functions.symm
    simp [runWork, same]
  | cons m rest ih =>
    have whole := complete m (List.mem_cons_self ..)
    have own := runWork_memberPoints linksKnown before.length (m := m)
      (fun entry member => machinesKnown m (List.mem_cons_self ..) _ (whole.mem_machines member))
      (fun entry member => bound (m, before.length) (by simp) _ (whole.mem_machines member))
      distinct
    have attached : attachEntries links m before.length m.interfaces d = { d with
        functions := before ++ [wholeDraft inService m] ++ rest.map (functionDraft inService)
        links := d.links.map fun link => { link with
          points := link.points ++
            linkedPoints links m.member.index before.length link.node m.interfaces }
        points := d.points ++ m.interfaces.map (pointDraft before.length) } := by
      rw [attachEntries, whole.interfaces_eq, functions, List.map_cons, modify_append_cons]
      simp [wholeDraft, functionDraft, attachAll_bareVnfd]
    rw [List.flatMap_cons]
    refine (runWork_append s _ _ d _).mpr ⟨_, own, ?_⟩
    have others := @ih (fun other member => complete other (List.mem_cons_of_mem _ member))
      (fun other member => machinesKnown other (List.mem_cons_of_mem _ member))
      (before ++ [wholeDraft inService m]) (attachEntries links m before.length m.interfaces d)
      (by rw [attached])
      (fun entry member => bound entry (by
        rw [List.zipIdx_cons]
        exact List.mem_cons_of_mem _ (by simpa using member)))
      (by simpa [attachEntries, Function.comp_def] using distinct)
    rw [others, attached]
    simp [linkedPoints]

end NfvCatalog.Translation

/-! ## Paths and graphs that come back

The node of a path names the nodes of its hops' connection points. Hops are taken in order; one that
is at no interface of its constituent has no node and is left out. A graph finds its paths among
those drafted before.
-/

namespace NfvCatalog.Translation

open Tosca

/-! ### Paths -/

/-- The nodes of the hops of a path. -/
def hopNodes (members : List MemberNodes) (path : ServicePath) : List String :=
  (path.hops.mergeSort fun a b => a.order ≤ b.order).filterMap fun hop =>
    pointOf? members hop.member hop.point

/-- The draft of a path. -/
def pathDraft (members : List MemberNodes) (path : String × ServicePath) : PathDraft :=
  { node := path.1, id := path.2.id, name := path.2.name, hops := hopNodes members path.2 }

/-- The node of a connection point is that of an interface on it. -/
theorem mem_interfaces_of_pointOf? {members : List MemberNodes} {index : UInt32}
    {point node : String} (found : pointOf? members index point = some node) :
    ∃ m ∈ members, m.member.index = index ∧
      ∃ entry ∈ m.interfaces, entry.1 = node ∧ entry.2.2.pointRef = point := by
  obtain ⟨m, member, inner⟩ := List.exists_of_findSome?_eq_some found
  by_cases same : m.member.index = index
  · rw [if_pos same] at inner
    obtain ⟨pair, pairFound, rfl⟩ := Option.map_eq_some_iff.mp inner
    have pairMember := List.mem_of_find?_eq_some pairFound
    have pairPoint : pair.1 = point := by simpa using List.find?_some pairFound
    rw [List.mem_reverse, MemberNodes.points] at pairMember
    obtain ⟨entry, inInterfaces, rfl⟩ := List.mem_map.mp pairMember
    exact ⟨m, List.mem_reverse.mp member, same, entry, inInterfaces, rfl, pairPoint⟩
  · rw [if_neg same] at inner
    cases inner

private theorem requirePoints_known {s : Surroundings} (entity : String) {targets : List String}
    (known : ∀ target ∈ targets, s.Knows target .connectionPoint) :
    requirePoints s entity targets = .ok () := by
  induction targets with
  | nil => rfl
  | cons target rest ih =>
    rw [requirePoints, (known target (List.mem_cons_self ..)).requireTarget, ok_bind]
    exact ih fun other member => known other (List.mem_cons_of_mem _ member)

private theorem targets_pathNode (members : List MemberNodes) (path : ServicePath) :
    (pathNode members path).targets "forwarder" = hopNodes members path := by
  simp [pathNode, hopNodes, NodeTemplate.targets, NodeTemplate.requirementPairs,
    List.flatMap_map, RequirementTarget.nodeName, List.filter_flatMap, List.map_flatMap]

/-- The node of a path becomes its draft. -/
theorem addPath_pathNode {s : Surroundings} {members : List MemberNodes}
    (known : ∀ m ∈ members, ∀ entry ∈ m.interfaces, s.Knows entry.1 .connectionPoint)
    (path : String × ServicePath) (d : Drafts) :
    (pathItem members path).run s d =
      .ok { d with paths := d.paths ++ [pathDraft members path] } := by
  have id : d.idOf s (pathNode members path.2).properties = (path.2.id, d) :=
    idOf_of_text? (by simp [pathNode, Value.Entries.text?]) s d
  have targetsKnown : ∀ target ∈ hopNodes members path.2, s.Knows target .connectionPoint := by
    intro target member
    obtain ⟨hop, -, found⟩ := List.mem_filterMap.mp member
    obtain ⟨m, inMembers, -, entry, inInterfaces, rfl, -⟩ := mem_interfaces_of_pointOf? found
    exact known m inMembers entry inInterfaces
  have name : nameOf (pathNode members path.2).properties path.1 = path.2.name := by
    simp [nameOf, pathNode, Value.Entries.text?]
  have run : (pathItem members path).run s d =
    addPath s path.1 (pathNode members path.2) d := rfl
  rw [run, addPath, targets_pathNode, requirePoints_known path.1 targetsKnown, id, name]
  rfl

theorem runWork_paths {s : Surroundings} {members : List MemberNodes}
    (known : ∀ m ∈ members, ∀ entry ∈ m.interfaces, s.Knows entry.1 .connectionPoint)
    (paths : List (String × ServicePath)) (d : Drafts) :
    runWork s (paths.map (pathItem members)) d =
      .ok { d with paths := d.paths ++ paths.map (pathDraft members) } := by
  induction paths generalizing d with
  | nil => simp [runWork]
  | cons path rest ih => simp [runWork, addPath_pathNode known, ih]

/-! ### Graphs -/

/-- The draft of a graph whose paths are drafted. -/
def graphDraft (paths : List PathDraft) (g : GraphNodes) : GraphDraft :=
  { graph :=
      { id := g.graph.id, name := g.graph.name, vendor := g.graph.vendor
        version := g.graph.version }
    paths := g.paths.map fun path => paths.findIdx (·.node = path.1) }

private theorem graphPaths_drafted (s : Surroundings) (entity : String) (d : Drafts)
    (nodes : List String) (drafted : ∀ node ∈ nodes, ∃ path ∈ d.paths, path.node = node) :
    graphPaths s entity d nodes =
      .ok (nodes.map fun node => d.paths.findIdx (·.node = node)) := by
  induction nodes with
  | nil => rfl
  | cons node rest ih =>
    have place : d.pathPlace? node = some (d.paths.findIdx (·.node = node)) :=
      findIdx?_of_exists (by simpa using drafted node (List.mem_cons_self ..))
    rw [graphPaths, place, ih fun other member => drafted other (List.mem_cons_of_mem _ member)]
    rfl

/-- The group of a graph becomes its draft. -/
theorem addGraph_graphGroup (s : Surroundings) {g : GraphNodes} {d : Drafts}
    (drafted : ∀ path ∈ g.paths, ∃ other ∈ d.paths, other.node = path.1) :
    (graphItem g).run s d = .ok { d with graphs := d.graphs ++ [graphDraft d.paths g] } := by
  have id : d.idOf s (graphGroup g.graph (g.paths.map Prod.fst)).properties = (g.graph.id, d) :=
    idOf_of_text? (by simp [graphGroup, Value.Entries.text?]) s d
  have paths := graphPaths_drafted s g.group d (g.paths.map Prod.fst) (by simpa using drafted)
  have run : (graphItem g).run s d =
    addGraph s g.group (graphGroup g.graph (g.paths.map Prod.fst)) d := rfl
  have members : (graphGroup g.graph (g.paths.map Prod.fst)).members = g.paths.map Prod.fst := rfl
  rw [run, addGraph, members, paths, id]
  simp [graphDraft, graphGroup, nameOf, Value.Entries.text?]

theorem runWork_graphs (s : Surroundings) {graphs : List GraphNodes} {d : Drafts}
    (drafted : ∀ g ∈ graphs, ∀ path ∈ g.paths, ∃ other ∈ d.paths, other.node = path.1) :
    runWork s (graphs.map graphItem) d =
      .ok { d with graphs := d.graphs ++ graphs.map (graphDraft d.paths) } := by
  induction graphs generalizing d with
  | nil => simp [runWork]
  | cons g rest ih =>
    have first := addGraph_graphGroup s (drafted g (List.mem_cons_self ..))
    have others := @ih { d with graphs := d.graphs ++ [graphDraft d.paths g] }
      fun other member => drafted other (List.mem_cons_of_mem _ member)
    simp [runWork, first, others]

end NfvCatalog.Translation
