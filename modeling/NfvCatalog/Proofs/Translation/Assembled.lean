import NfvCatalog.Proofs.Translation.Drafted
import NfvCatalog.Proofs.Translation.Indices

/-! # Descriptors that are assembled

The drafts of a layout become descriptors again: what refers to a constituent's node refers to its
member index, so that nothing of the names of nodes is left.
-/

namespace NfvCatalog.Translation

open Tosca

/-! ## Constituents and their places -/

/-- A constituent as others refer to it. -/
def memberOf (m : MemberNodes) : Member := { index := m.member.index, vnfd := m.vnfd.id }

private theorem rosterOf_functionDrafts (layout : Layout) (inService : Bool) :
    rosterOf (layout.members.map (·.member.index)) (layout.functionDrafts inService) =
      layout.members.map memberOf := by
  rw [rosterOf, Layout.functionDrafts]
  induction layout.members with
  | nil => rfl
  | cons m rest ih =>
    rw [List.map_cons, List.map_cons, List.zipWith_cons_cons, ih]
    rfl

/-- The first constituent with a member index, with its nodes. -/
def memberNodes? (members : List MemberNodes) (index : UInt32) : Option MemberNodes :=
  members.find? (·.member.index = index)

theorem memberNodes?_eq_some {members : List MemberNodes} {index : UInt32} {m : MemberNodes}
    (found : memberNodes? members index = some m) : m ∈ members ∧ m.member.index = index :=
  ⟨List.mem_of_find?_eq_some found, by simpa using List.find?_some found⟩

theorem member?_map (members : List MemberNodes) (index : UInt32) :
    member? (members.map fun m => (m.member, m.vnfd)) index =
      (memberNodes? members index).map fun m => (m.member, m.vnfd) := by
  rw [member?, memberNodes?, List.find?_map]
  rfl

section Places

variable {members : List MemberNodes} (inService : Bool)

/-- A constituent is found at the place of its node. -/
private theorem getElem?_placeOf (distinct : (members.map (·.vnf)).Nodup) {m : MemberNodes}
    (member : m ∈ members) :
    (members.map memberOf)[placeOf (members.map (wholeDraft inService)) m.vnf]? =
      some (memberOf m) := by
  have place : placeOf (members.map (wholeDraft inService)) m.vnf =
      members.findIdx fun other => other.vnf = m.vnf := by
    rw [placeOf, List.findIdx_map]
    rfl
  have found := find?_key (fun other : MemberNodes => other.vnf) distinct member
  rw [List.find?_eq_bind_findIdx?_getElem?,
    findIdx?_of_exists ⟨m, member, by simp⟩, Option.bind_some] at found
  rw [place, List.getElem?_map, found]
  rfl

private theorem vnfOf?_eq (distinct : (members.map (·.member.index)).Nodup) (index : UInt32) :
    vnfOf? members index = (memberNodes? members index).map (·.vnf) := by
  rw [vnfOf?, find?_reverse_key (fun m : MemberNodes => m.member.index) distinct]
  rfl

end Places

/-! ## Links -/

/-- A point is on a link as often as the link refers to it. -/
theorem count_linksOf {links : NamedLinks} (distinct : (links.map Prod.fst).Nodup)
    {link : String × Vld} (member : link ∈ links) (index : UInt32) (point : String) :
    (linksOf links index point).count link.1 = refCount link.2 index point := by
  induction links with
  | nil => cases member
  | cons first rest ih =>
    obtain ⟨fresh, distinct⟩ := List.nodup_cons.mp distinct
    have own (name : String) (refs : List PointRef) :
        (refs.map fun _ => name).count link.1 = if name = link.1 then refs.length else 0 := by
      rw [List.map_const', List.count_replicate]
      simp
    have parts : linksOf (first :: rest) index point =
        ((first.2.pointRefs.filter fun ref => ref.member = index ∧ ref.point = point).map
          fun _ => first.1) ++ linksOf rest index point := List.flatMap_cons
    rw [parts, List.count_append, own]
    rcases List.mem_cons.mp member with rfl | member
    · have absent : (linksOf rest index point).count link.1 = 0 := by
        refine List.count_eq_zero.mpr fun inRest => ?_
        simp only [linksOf, List.mem_flatMap, List.mem_map] at inRest
        obtain ⟨other, inLinks, _, -, same⟩ := inRest
        exact fresh (same ▸ List.mem_map_of_mem inLinks)
      rw [absent, if_pos rfl]
      rfl
    · have other : first.1 ≠ link.1 := fun same => fresh (same ▸ List.mem_map_of_mem member)
      rw [if_neg other, Nat.zero_add]
      exact ih distinct member

private theorem flatMap_zipIdx {α β : Type} (items : List α) (f : α → List β) :
    items.zipIdx.flatMap (fun entry => f entry.1) = items.flatMap f := by
  rw [← List.flatMap_map, List.zipIdx_map_fst]

/-- The references that a constituent's interfaces put on a link. -/
private theorem filterMap_linkedPoints {links : NamedLinks} (distinct : (links.map Prod.fst).Nodup)
    {link : String × Vld} (member : link ∈ links) {roster : Roster} {place : Nat}
    {m : MemberNodes} (complete : m.Complete) (seated : roster[place]? = some (memberOf m)) :
    (linkedPoints links m.member.index place link.1 m.interfaces).filterMap
        (fun (place, point) => (roster[place]?).map fun m =>
          ({ member := m.index, vnfd := m.vnfd, point := point } : PointRef)) =
      m.vnfd.interfaces.flatMap fun (_, interface) =>
        List.replicate (refCount link.2 m.member.index interface.pointRef)
          { member := m.member.index, vnfd := m.vnfd.id, point := interface.pointRef } := by
  rw [linkedPoints, ← complete.interfaces_eq, List.flatMap_map, List.filterMap_flatMap]
  refine List.flatMap_congr fun entry _ => ?_
  rw [count_linksOf distinct member, List.filterMap_replicate_of_some
    (b := { member := m.member.index, vnfd := m.vnfd.id, point := entry.2.2.pointRef })
    (by simp [seated, memberOf])]

/-- A link refers to the connection points of constituents again. -/
theorem linkOf_linkDrafts {layout : Layout} {nsd : Nsd} {members : List Supplied}
    (describes : layout.Describes nsd members) :
    layout.linkDrafts.map (linkOf (layout.members.map memberOf)) =
      nsd.vlds.map (restoredVld members) := by
  rw [Layout.linkDrafts, ← describes.links, List.map_map, List.map_map]
  refine List.map_congr_left fun link member => ?_
  have refs : (layout.members.zipIdx.flatMap fun entry =>
      linkedPoints layout.links entry.1.member.index entry.2 link.1 entry.1.interfaces).filterMap
        (fun (place, point) => ((layout.members.map memberOf)[place]?).map fun m =>
          ({ member := m.index, vnfd := m.vnfd, point := point } : PointRef)) =
      restoredRefs members link.2 := by
    rw [List.filterMap_flatMap, restoredRefs, ← describes.members, List.flatMap_map]
    refine Eq.trans ?_ (flatMap_zipIdx layout.members _)
    refine List.flatMap_congr fun entry seat => ?_
    have found := List.mem_zipIdx_iff_getElem?.mp seat
    exact filterMap_linkedPoints (Layout.nodup_links describes.distinct) member
      (describes.complete _ (List.mem_of_getElem? found)) (by simp [found])
  rw [Function.comp_apply, linkOf]
  simp only [refs]
  rfl

/-! ## Groups -/

section Groups

variable {layout : Layout} {nsd : Nsd} {members : List Supplied}
  (describes : layout.Describes nsd members) (inService : Bool)
  (distinct : (layout.members.map (·.member.index)).Nodup)
include describes distinct

/-- The place of a constituent's node leads back to the constituent. -/
private theorem getElem?_of_vnfOf? {index : UInt32} {node : String}
    (found : vnfOf? layout.members index = some node) :
    ∃ m, memberNodes? layout.members index = some m ∧ node = m.vnf ∧
      (layout.members.map memberOf)[placeOf (layout.functionDrafts inService) node]? =
        some { index := index, vnfd := m.vnfd.id } := by
  rw [vnfOf?_eq distinct] at found
  obtain ⟨m, first, rfl⟩ := Option.map_eq_some_iff.mp found
  obtain ⟨member, rfl⟩ := memberNodes?_eq_some first
  exact ⟨m, first, rfl,
    getElem?_placeOf inService (Layout.nodup_functions describes.distinct) member⟩

theorem placementOf_placementDraft (group : PlacementGroup) :
    placementOf (layout.members.map memberOf)
        (placementDraft (layout.functionDrafts inService) layout.members group) =
      restoredPlacement members group := by
  have placed : ((group.members.filterMap fun m => vnfOf? layout.members m.member).map
        (placeOf (layout.functionDrafts inService))).filterMap
          (fun place => ((layout.members.map memberOf)[place]?).map fun m =>
            ({ member := m.index, vnfd := m.vnfd } : PlacementMember)) =
      group.members.filterMap fun m => (member? members m.member).map fun supplied =>
        { member := m.member, vnfd := supplied.2.id } := by
    rw [List.filterMap_map, List.filterMap_filterMap, ← describes.members]
    refine List.filterMap_congr fun m _ => ?_
    rw [member?_map]
    cases found : vnfOf? layout.members m.member with
    | none =>
      have absent : memberNodes? layout.members m.member = none := by
        simpa [vnfOf?_eq distinct] using found
      simp [absent]
    | some node =>
      obtain ⟨owner, first, -, seat⟩ := getElem?_of_vnfOf? describes inService distinct found
      simp only [first, Option.bind_some, Function.comp_apply, seat, Option.map_some]
  rw [placementOf]
  simp only [placementDraft, placed]
  rfl

/-- Constituents with the same node have the same index. -/
private theorem index_eq_of_vnfOf? {index other : UInt32} {node : String}
    (found : vnfOf? layout.members index = some node)
    (otherFound : vnfOf? layout.members other = some node) : index = other := by
  obtain ⟨_, -, -, seat⟩ := getElem?_of_vnfOf? describes true distinct found
  obtain ⟨_, -, -, otherSeat⟩ := getElem?_of_vnfOf? describes true distinct otherFound
  rw [seat] at otherSeat
  exact congrArg Member.index (Option.some.inj otherSeat)

private theorem exists_vnfOf?_of_member? {index : UInt32}
    (supplied : (member? members index).isSome) :
    ∃ node, vnfOf? layout.members index = some node := by
  rw [← describes.members, member?_map, Option.isSome_map] at supplied
  obtain ⟨owner, first⟩ := Option.isSome_iff_exists.mp supplied
  exact ⟨owner.vnf, by rw [vnfOf?_eq distinct, first]; rfl⟩

/-- The node of a member index, if it is that of a constituent. -/
private theorem scaledNodes_eq (group : ScalingGroup) :
    scaledNodes layout.members group =
      (group.members.filter fun m => (member? members m.member).isSome).map fun m =>
        ((vnfOf? layout.members m.member).getD "", m.count) := by
  rw [scaledNodes]
  induction group.members with
  | nil => rfl
  | cons m rest ih =>
    have known : (member? members m.member).isSome = (vnfOf? layout.members m.member).isSome := by
      rw [← describes.members, member?_map, vnfOf?_eq distinct]
      simp
    cases found : vnfOf? layout.members m.member <;> simp [known, found, ih]

theorem scalingOf_scalingDraft (group : ScalingGroup) :
    scalingOf (layout.members.map memberOf)
        (scalingDraft (layout.functionDrafts inService) layout.members group) =
      restoredScaling members group := by
  have known (m : ScalingMember) (kept : m ∈ group.members.filter fun m =>
      (member? members m.member).isSome) :
      ∃ node, vnfOf? layout.members m.member = some node :=
    exists_vnfOf?_of_member? describes distinct (List.mem_filter.mp kept).2
  -- The template tells members apart by their nodes, the descriptor by their indices.
  have sameKeys : ∀ a ∈ group.members.filter (fun m => (member? members m.member).isSome),
      ∀ b ∈ group.members.filter (fun m => (member? members m.member).isSome),
        (vnfOf? layout.members a.member).getD "" = (vnfOf? layout.members b.member).getD "" ↔
          a.member = b.member := by
    intro a aKept b bKept
    obtain ⟨aNode, aFound⟩ := known a aKept
    obtain ⟨bNode, bFound⟩ := known b bKept
    rw [aFound, bFound, Option.getD_some, Option.getD_some]
    constructor
    · rintro rfl
      exact index_eq_of_vnfOf? describes distinct aFound bFound
    · intro same
      rw [same, bFound] at aFound
      exact (Option.some.inj aFound).symm
  have collected_nodes : latest Prod.fst (scaledNodes layout.members group) =
      (latest ScalingMember.member
        (group.members.filter fun m => (member? members m.member).isSome)).map fun m =>
          ((vnfOf? layout.members m.member).getD "", m.count) := by
    rw [scaledNodes_eq describes distinct]
    exact latest_map sameKeys
  have placed : (scalingOf (layout.members.map memberOf)
      (scalingDraft (layout.functionDrafts inService) layout.members group)).members =
      latest ScalingMember.member
        (group.members.filter fun m => (member? members m.member).isSome) := by
    simp only [scalingOf, scalingDraft]
    rw [collected_nodes, List.map_map, List.filterMap_map]
    refine (List.filterMap_congr fun m kept => ?_).trans List.filterMap_some
    obtain ⟨node, found⟩ := known m (mem_of_mem_latest _ kept)
    obtain ⟨_, _, _, seat⟩ := getElem?_of_vnfOf? describes inService distinct found
    simp only [Function.comp_apply, found, Option.getD_some, seat, Option.map_some]
  have whole : scalingOf (layout.members.map memberOf)
      (scalingDraft (layout.functionDrafts inService) layout.members group) =
        { restoredScaling members group with
          members := (scalingOf (layout.members.map memberOf)
            (scalingDraft (layout.functionDrafts inService) layout.members group)).members } := rfl
  rw [whole, placed]
  rfl

end Groups

/-! ## Graphs -/

section Graphs

variable {layout : Layout} {nsd : Nsd} {members : List Supplied}
  (describes : layout.Describes nsd members)
  (distinct : (layout.members.map (·.member.index)).Nodup)

private theorem nodes_pointDrafts (layout : Layout) :
    layout.pointDrafts.map (·.node) =
      layout.members.flatMap fun m => m.interfaces.map Prod.fst := by
  have node (entry : MemberNodes × Nat) :
      (entry.1.interfaces.map (pointDraft entry.2)).map (·.node) =
        entry.1.interfaces.map Prod.fst := by
    simp [pointDraft]
  rw [Layout.pointDrafts, List.map_flatMap]
  simp only [node]
  exact flatMap_zipIdx layout.members fun m => m.interfaces.map Prod.fst

private theorem hasInterfaceOn_iff {m : MemberNodes} (complete : m.Complete) (point : String) :
    hasInterfaceOn m.vnfd point = true ↔ ∃ entry ∈ m.interfaces, entry.2.2.pointRef = point := by
  rw [hasInterfaceOn, ← complete.interfaces_eq]
  simp

include describes distinct

/-- A hop without a node is at no interface, and one with a node is found at its constituent. -/
private theorem hop_drafted (hop : PathHop) :
    (pointOf? layout.members hop.member hop.point = none ∧ hopVnfd? members hop = none) ∨
      ∃ node place vnfd, pointOf? layout.members hop.member hop.point = some node ∧
        layout.pointDrafts.find? (·.node = node) =
          some { node := node, function := place, name := hop.point } ∧
        (layout.members.map memberOf)[place]? = some { index := hop.member, vnfd := vnfd } ∧
        hopVnfd? members hop = some vnfd := by
  rw [hopVnfd?, ← describes.members, member?_map]
  cases found : pointOf? layout.members hop.member hop.point with
  | none =>
    refine .inl ⟨rfl, ?_⟩
    cases first : memberNodes? layout.members hop.member with
    | none => rfl
    | some m =>
      obtain ⟨member, same⟩ := memberNodes?_eq_some first
      have missed := List.findSome?_eq_none_iff.mp found m (List.mem_reverse.mpr member)
      have away : hasInterfaceOn m.vnfd hop.point = false := by
        rw [Bool.eq_false_iff]
        intro present
        obtain ⟨entry, inInterfaces, on⟩ :=
          (hasInterfaceOn_iff (describes.complete m member) hop.point).mp present
        simp only [same, if_true, Option.map_eq_none_iff, List.find?_eq_none] at missed
        refine missed (entry.2.2.pointRef, entry.1) ?_ (by simpa using on)
        exact List.mem_reverse.mpr (List.mem_map.mpr ⟨entry, inInterfaces, rfl⟩)
      simp [away]
  | some node =>
    obtain ⟨m, member, same, entry, inInterfaces, named, on⟩ := mem_interfaces_of_pointOf? found
    have first : memberNodes? layout.members hop.member = some m := by
      rw [← same]
      exact find?_key (fun m : MemberNodes => m.member.index) distinct member
    have present := (hasInterfaceOn_iff (describes.complete m member) hop.point).mpr
      ⟨entry, inInterfaces, on⟩
    obtain ⟨place, seat⟩ := List.getElem?_of_mem member
    have drafted : pointDraft place entry ∈ layout.pointDrafts :=
      List.mem_flatMap.mpr ⟨(m, place), List.mem_zipIdx_iff_getElem?.mpr seat,
        List.mem_map_of_mem inInterfaces⟩
    have points := Layout.nodup_points describes.distinct
    rw [← nodes_pointDrafts] at points
    have lookup := find?_key (fun draft : PointDraft => draft.node) points drafted
    refine .inr ⟨node, place, m.vnfd.id, rfl, ?_, ?_, ?_⟩
    · rw [← named, ← on]
      exact lookup
    · rw [List.getElem?_map, seat, ← same]
      rfl
    · rw [first]
      simp [present]

/-- The hops of a path are numbered in order. -/
private theorem hopsOf_drafted {d : Drafts} (points : d.points = layout.pointDrafts)
    (path : PathDraft) (order : Nat) (hops : List PathHop) :
    hopsOf (layout.members.map memberOf) d path order
        (hops.filterMap fun hop => pointOf? layout.members hop.member hop.point) =
      .ok (numberedHops order (hops.filterMap fun hop =>
        (hopVnfd? members hop).map fun vnfd => { hop with vnfd := vnfd })) := by
  induction hops generalizing order with
  | nil => rfl
  | cons hop rest ih =>
    rcases hop_drafted describes distinct hop with
      ⟨noNode, away⟩ | ⟨node, place, vnfd, hasNode, drafted, seat, on⟩
    · simp only [List.filterMap_cons, noNode, away, Option.map_none]
      exact ih order
    · simp only [List.filterMap_cons, hasNode, on, Option.map_some]
      have point : d.point? node = some { node := node, function := place, name := hop.point } := by
        rw [Drafts.point?, points]
        exact drafted
      rw [hopsOf, point]
      simp only [ih (order + 1), ok_bind, seat]
      rfl

/-- The paths of a graph are found by their nodes. -/
private theorem pathsOf_drafted {d : Drafts} (points : d.points = layout.pointDrafts)
    (paths : d.paths = layout.pathDrafts) {named : List (String × ServicePath)}
    (drafted : ∀ path ∈ named, pathDraft layout.members path ∈ layout.pathDrafts) :
    pathsOf (layout.members.map memberOf) d
        (named.map fun path => layout.pathDrafts.findIdx (·.node = path.1)) =
      .ok (named.map fun path => restoredPath members path.2) := by
  induction named with
  | nil => rfl
  | cons path rest ih =>
    have nodes : (layout.pathDrafts.map (·.node)).Nodup := by
      have names := Layout.nodup_paths describes.distinct
      simpa [Layout.pathDrafts, List.map_flatMap, pathDraft, Function.comp_def] using names
    have inDrafts := drafted path (List.mem_cons_self ..)
    have found := find?_key (fun draft : PathDraft => draft.node) nodes inDrafts
    rw [List.find?_eq_bind_findIdx?_getElem?,
      findIdx?_of_exists ⟨_, inDrafts, by simp⟩, Option.bind_some] at found
    have place : d.paths[layout.pathDrafts.findIdx (·.node = path.1)]? =
        some (pathDraft layout.members path) := by
      rw [paths]
      exact found
    have hops := hopsOf_drafted describes distinct points (pathDraft layout.members path) 1
      (path.2.hops.mergeSort fun a b => a.order ≤ b.order)
    have hops : hopsOf (layout.members.map memberOf) d (pathDraft layout.members path) 1
        (pathDraft layout.members path).hops = .ok (restoredPath members path.2).hops := hops
    rw [List.map_cons, pathsOf, place]
    simp only [hops, ok_bind, ih fun other member => drafted other (List.mem_cons_of_mem _ member)]
    rfl

/-- The graphs of a service come back with their paths. -/
theorem graphsOf_drafted {d : Drafts} (points : d.points = layout.pointDrafts)
    (paths : d.paths = layout.pathDrafts) :
    graphsOf (layout.members.map memberOf) d (layout.graphs.map (graphDraft layout.pathDrafts)) =
      .ok (nsd.graphs.map (restoredGraph members)) := by
  have drafted (graphs : List GraphNodes) (within : ∀ g ∈ graphs, g ∈ layout.graphs) :
      graphsOf (layout.members.map memberOf) d (graphs.map (graphDraft layout.pathDrafts)) =
        .ok (graphs.map fun g => restoredGraph members g.graph) := by
    induction graphs with
    | nil => rfl
    | cons g rest ih =>
      have inLayout := within g (List.mem_cons_self ..)
      have inDrafts : ∀ path ∈ g.paths, pathDraft layout.members path ∈ layout.pathDrafts :=
        fun path inPaths => List.mem_flatMap.mpr ⟨g, inLayout, List.mem_map_of_mem inPaths⟩
      have own := pathsOf_drafted describes distinct points paths inDrafts
      have found : g.paths.map (fun path => restoredPath members path.2) =
          g.graph.paths.map (restoredPath members) := by
        rw [← describes.paths g inLayout, List.map_map]
        rfl
      rw [List.map_cons, graphsOf, graphDraft]
      simp only [own, ok_bind, ih fun other member => within other (List.mem_cons_of_mem _ member),
        found]
      rfl
  rw [drafted layout.graphs fun g member => member, ← describes.graphs, List.map_map]
  rfl

end Graphs

/-! ## Services -/

/-- The head of a service comes back from the metadata of its template. -/
theorem headerOf_template (layout : Layout) (nsd : Nsd) (inService : Bool) (newId : String) :
    headerOf (layout.template nsd inService) newId =
      { id := nsd.id
        name := if inService then nsd.name else nsd.id
        vendor := nsd.vendor
        description := nsd.description
        version := nsd.version } := by
  cases inService <;>
    simp [headerOf, Layout.template, metadataOf, Value.Entries.text?]

theorem owned_drafts (layout : Layout) (inService : Bool) :
    (layout.drafts inService).machines.find? (·.owner.isNone) = none := by
  refine List.find?_eq_none.mpr fun draft member => ?_
  simp only [Layout.drafts, ownedMachines, List.mem_flatMap, List.mem_map] at member
  obtain ⟨_, -, machine, -, rfl⟩ := member
  simp [machineDraft]

/-- The functions of a service ask for the member indices of its constituents. -/
theorem memberIndices_inService (layout : Layout) (given : List UInt32) :
    memberIndices (layout.functionDrafts true) = .ok given ↔
      (layout.members.map (·.member.index)).Nodup ∧
        given = layout.members.map (·.member.index) :=
  memberIndices_asked (by simp [Layout.functionDrafts, wholeDraft, functionDraft]) given

/-- Functions without a service ask for no member indices. -/
theorem memberIndices_loose (layout : Layout) (given : List UInt32) :
    memberIndices (layout.functionDrafts false) = .ok given ↔
      layout.members.length ≤ UInt32.size ∧ given = freshIndices [] layout.members.length := by
  have unasked : ∀ function ∈ layout.functionDrafts false, function.index = none :=
    List.forall_mem_map.mpr fun _ _ => rfl
  simpa [Layout.functionDrafts] using memberIndices_unasked unasked given

section Services

variable {layout : Layout} {nsd : Nsd} {members : List Supplied}
  (describes : layout.Describes nsd members)
include describes

private theorem vnfdsOf_drafts (inService : Bool) :
    vnfdsOf (layout.functionDrafts inService) = restoredVnfds members := by
  rw [vnfdsOf, restoredVnfds, ← describes.members, Layout.functionDrafts, List.map_map,
    List.map_map]
  rfl

private theorem primitives_drafts (inService : Bool) :
    (layout.drafts inService).primitives = nsd.primitives.map restoredPrimitive := by
  rw [← describes.primitives, List.map_map]
  rfl

/-- The drafts of a service become its descriptors exactly if no member index is given twice. -/
theorem assemble_inService (constituents : members.map Prod.fst = nsd.constituents)
    (named : ∀ m ∈ members, m.2.id = m.1.vnfd) (freshId : Nat → String) (service : Service) :
    assemble (layout.surroundings nsd true freshId) (layout.drafts true) = .ok service ↔
      (nsd.constituents.map (·.index)).Nodup ∧
        service =
          { nsd := restoredNsd nsd members
            vnfds := restoredVnfds members
            artifacts := artifactsOf (layout.drafts true)
              ((nsd.primitives.map restoredPrimitive).mergeSort fun a b => a.seq ≤ b.seq) } := by
  have indices : layout.members.map (·.member.index) = nsd.constituents.map (·.index) := by
    rw [← constituents, ← describes.members]
    simp
  have given := memberIndices_inService layout
  have functions : (layout.drafts true).functions = layout.functionDrafts true := rfl
  rw [assemble, owned_drafts, functions, ← indices]
  by_cases distinct : (layout.members.map (·.member.index)).Nodup
  · have rebuilt : constituentsOf (layout.members.map memberOf) (layout.functionDrafts true) =
        nsd.constituents := by
      have own : ∀ m ∈ layout.members, m.vnfd.id = m.member.vnfd := fun m member =>
        named (m.member, m.vnfd) (describes.members ▸ List.mem_map_of_mem member)
      rw [constituentsOf, Layout.functionDrafts, List.zipWith_map, List.zipWith_self,
        ← constituents, ← describes.members, List.map_map]
      refine List.map_congr_left fun m member => ?_
      simp [memberOf, wholeDraft, functionDraft, own m member]
    have graphs := graphsOf_drafted describes distinct (d := layout.drafts true) rfl rfl
    have graphs : graphsOf (layout.members.map memberOf) (layout.drafts true)
        (layout.drafts true).graphs = .ok (nsd.graphs.map (restoredGraph members)) := graphs
    have links : (layout.drafts true).links.map (linkOf (layout.members.map memberOf)) =
        nsd.vlds.map (restoredVld members) := linkOf_linkDrafts describes
    have scaling : (layout.drafts true).scaling.map (scalingOf (layout.members.map memberOf)) =
        nsd.scalingGroups.map (restoredScaling members) := by
      rw [← describes.scaling]
      simp [Layout.drafts, scalingOf_scalingDraft describes true distinct]
    have placements : (layout.drafts true).placements.map
        (placementOf (layout.members.map memberOf)) =
          nsd.placementGroups.map (restoredPlacement members) := by
      rw [← describes.placements]
      simp [Layout.drafts, placementOf_placementDraft describes true distinct]
    have header := headerOf_template layout nsd true (freshId (layout.drafts true).drawn)
    rw [(given _).mpr ⟨distinct, rfl⟩]
    simp only [ok_bind, rosterOf_functionDrafts, graphs, rebuilt, links, scaling, placements,
      primitives_drafts describes, vnfdsOf_drafts describes, Layout.surroundings, header,
      pure_eq_ok, distinct, true_and]
    exact eq_comm
  · have refused : ∀ indices, memberIndices (layout.functionDrafts true) ≠ .ok indices :=
      fun indices granted => distinct ((given indices).mp granted).1
    simp [bind_eq_ok, refused, distinct]

/-- Constituents with indices that were made up for them, with their functions. -/
def numberedMembers (indices : List UInt32) (members : List Supplied) : List Supplied :=
  List.zipWith (fun index m =>
    ({ index := index, vnfd := m.2.id, startByDefault := m.1.startByDefault }, m.2))
    indices members

private theorem constituentsOf_drafts (inService : Bool) (indices : List UInt32) :
    constituentsOf (rosterOf indices (layout.functionDrafts inService))
        (layout.functionDrafts inService) =
      (numberedMembers indices members).map Prod.fst := by
  rw [← describes.members, Layout.functionDrafts]
  induction layout.members generalizing indices with
  | nil => cases indices <;> rfl
  | cons m rest ih =>
    cases indices with
    | nil => rfl
    | cons index others =>
      have tail := ih others
      simp only [constituentsOf, rosterOf, numberedMembers] at tail ⊢
      simp only [List.map_cons, List.zipWith_cons_cons, tail]
      rfl

/-- The drafts of functions without a service become descriptors with made-up member indices,
exactly if there are enough of them. -/
theorem assemble_loose
    (alone : nsd = { id := nsd.id, name := nsd.id, vendor := nsd.vendor
                     description := nsd.description, version := nsd.version
                     constituents := nsd.constituents }) (freshId : Nat → String) :
    ∃ artifacts, ∀ service,
      assemble (layout.surroundings nsd false freshId) (layout.drafts false) = .ok service ↔
        members.length ≤ UInt32.size ∧ service = {
          nsd := {
            id := nsd.id
            name := nsd.id
            vendor := nsd.vendor
            description := nsd.description
            version := nsd.version
            constituents :=
              (numberedMembers (freshIndices [] members.length) members).map Prod.fst }
          vnfds := restoredVnfds members
          artifacts := artifacts } := by
  have count : layout.members.length = members.length := by simp [← describes.members]
  have given := memberIndices_loose layout
  rw [count] at given
  have links : layout.links = [] := by
    rw [← List.map_eq_nil_iff, describes.links, alone]
  have graphs : layout.graphs = [] := by
    rw [← List.map_eq_nil_iff, describes.graphs, alone]
  have scaling : layout.scaling = [] := by
    rw [← List.map_eq_nil_iff, describes.scaling, alone]
  have placements : layout.placements = [] := by
    rw [← List.map_eq_nil_iff, describes.placements, alone]
  have primitives : layout.primitives = [] := by
    rw [← List.map_eq_nil_iff, describes.primitives, alone]
  have drafted : layout.drafts false =
      { machines := ownedMachines 0 layout.members
        functions := layout.functionDrafts false
        points := layout.pointDrafts } := by
    simp [Layout.drafts, Layout.linkDrafts, Layout.pathDrafts, links, graphs, scaling, placements,
      primitives]
  have header := headerOf_template layout nsd false (freshId 0)
  refine ⟨artifactsOf (layout.drafts false) [], fun service => ?_⟩
  rw [assemble, owned_drafts]
  by_cases room : members.length ≤ UInt32.size
  · have numbered := (given _).mpr ⟨room, rfl⟩
    simp only [drafted, numbered, ok_bind, constituentsOf_drafts describes,
      vnfdsOf_drafts describes, Layout.surroundings, header, room, true_and]
    simp [graphsOf, eq_comm]
  · have refused : ∀ indices, memberIndices (layout.functionDrafts false) ≠ .ok indices :=
      fun indices granted => room ((given indices).mp granted).1
    simp [drafted, bind_eq_ok, refused, room]

end Services

end NfvCatalog.Translation
