import NfvCatalog.Proofs.Translation.FunctionsAgain

/-! # Services that come back twice

Groups and primitives of a service that has come back once come back as they are. A link does if
each of its references is to a connection point with one interface, a path if its hops are in order.
-/

namespace NfvCatalog

/-- Where a hop of a path goes through. -/
def PathHop.place (hop : PathHop) : UInt32 × String × String := (hop.member, hop.vnfd, hop.point)

/-- Sorting the hops of a path by their numbers leaves them where they are. -/
def ServicePath.HopsInOrder (path : ServicePath) : Prop :=
  (path.hops.mergeSort fun a b => a.order ≤ b.order).map (·.place) = path.hops.map (·.place)

end NfvCatalog

namespace NfvCatalog.Translation

/-- The constituents of a service with the descriptors that came back. -/
def restoredMembers (members : List Supplied) : List Supplied :=
  members.map fun m => (m.1, restoredVnfd m.2)

theorem member?_restoredMembers (members : List Supplied) (index : UInt32) :
    member? (restoredMembers members) index =
      (member? members index).map fun m => (m.1, restoredVnfd m.2) := by
  rw [member?, restoredMembers, List.find?_map]
  rfl

/-! ## Policies -/

theorem restoredScaling_again (members : List Supplied) (group : ScalingGroup) :
    restoredScaling (restoredMembers members) (restoredScaling members group) =
      restoredScaling members group := by
  have kept : (restoredScaling members group).members.filter
      (fun m => (member? (restoredMembers members) m.member).isSome) =
        (restoredScaling members group).members := by
    refine List.filter_eq_self.mpr fun m member => ?_
    have known := List.of_mem_filter (mem_of_mem_latest _ member)
    simpa [member?_restoredMembers] using known
  have same : (restoredScaling members group).members =
      latest ScalingMember.member
        (group.members.filter fun m => (member? members m.member).isSome) := rfl
  have actions : (restoredScaling members group).actions =
      latest ScalingAction.trigger group.actions := rfl
  rw [restoredScaling, kept, same, actions, latest_latest, latest_latest]
  rfl

/-- A member of a placement group as it comes back. -/
private def placedMember? (members : List Supplied) (m : PlacementMember) :
    Option PlacementMember :=
  (member? members m.member).map fun supplied => { member := m.member, vnfd := supplied.2.id }

private theorem placedMember?_again {members : List Supplied} {m other : PlacementMember}
    (placed : placedMember? members m = some other) :
    placedMember? (restoredMembers members) other = some other := by
  obtain ⟨supplied, found, rfl⟩ := Option.map_eq_some_iff.mp placed
  rw [placedMember?, member?_restoredMembers, found]
  rfl

theorem restoredPlacement_again (members : List Supplied) (group : PlacementGroup) :
    restoredPlacement (restoredMembers members) (restoredPlacement members group) =
      restoredPlacement members group := by
  have placed : (group.members.filterMap (placedMember? members)).filterMap
      (placedMember? (restoredMembers members)) =
        group.members.filterMap (placedMember? members) :=
    filterMap_filterMap_of_kept (fun _ _ => placedMember?_again) group.members
  have strategy : (group.strategy.map Text.asciiUpper).map Text.asciiUpper =
      group.strategy.map Text.asciiUpper := by
    simp [Function.comp_def]
  calc restoredPlacement (restoredMembers members) (restoredPlacement members group)
      = { restoredPlacement members group with
          strategy := (group.strategy.map Text.asciiUpper).map Text.asciiUpper
          members := (group.members.filterMap (placedMember? members)).filterMap
            (placedMember? (restoredMembers members)) } := rfl
    _ = restoredPlacement members group := by
      rw [placed, strategy]
      rfl

theorem restoredPrimitive_again (primitive : ConfigPrimitive) :
    restoredPrimitive (restoredPrimitive primitive) = restoredPrimitive primitive := by
  rw [restoredPrimitive, restoredPrimitive, latest_latest]

/-- Primitives are in order once they came back. -/
theorem restoredPrimitives_again (primitives : List ConfigPrimitive) :
    ((((primitives.map restoredPrimitive).mergeSort fun a b => a.seq ≤ b.seq).map
        restoredPrimitive).mergeSort fun a b => a.seq ≤ b.seq) =
      (primitives.map restoredPrimitive).mergeSort fun a b => a.seq ≤ b.seq := by
  have stay : ((primitives.map restoredPrimitive).mergeSort fun a b => a.seq ≤ b.seq).map
      restoredPrimitive =
        (primitives.map restoredPrimitive).mergeSort fun a b => a.seq ≤ b.seq := by
    refine listMap_eq_self.mpr fun primitive member => ?_
    obtain ⟨source, -, rfl⟩ := List.mem_map.mp (List.mem_mergeSort.mp member)
    exact restoredPrimitive_again source
  rw [stay]
  refine List.mergeSort_of_pairwise (List.pairwise_mergeSort ?_ ?_ _)
  · intro a b c
    simpa using UInt32.le_trans
  · intro a b
    simpa using UInt32.le_total a.seq b.seq

/-! ## Links -/

private theorem restoredProvider_again (provider : Option ProviderNetwork) :
    restoredProvider (restoredProvider provider) = restoredProvider provider := by
  cases provider with
  | none => rfl
  | some provider =>
    rw [restoredProvider, restoredProvider, Option.map_some, filter_ne_some]
    split
    · rfl
    · next said => simp [said, Function.comp_def]

private theorem restoredLink_again (vld : Vld) :
    restoredLink (restoredLink vld) = restoredLink vld := by
  simp [restoredLink, restoredProvider_again]

/-- A link that came back comes back as it is exactly if its references do. -/
theorem restoredVld_eq_iff (members : List Supplied) (vld : Vld) :
    restoredVld (restoredMembers members) (restoredVld members vld) = restoredVld members vld ↔
      restoredRefs (restoredMembers members) (restoredVld members vld) =
        restoredRefs members vld := by
  have head : restoredLink (restoredVld members vld) = restoredLink vld := restoredLink_again vld
  rw [restoredVld, head]
  constructor
  · exact fun same => congrArg Vld.pointRefs same
  · intro same
    rw [same]
    rfl

private theorem restoredRefs_eq_flatMap (members : List Supplied) (vld : Vld) :
    restoredRefs members vld = members.flatMap fun m =>
      (m.2.interfaces.map (·.2.pointRef)).flatMap fun point =>
        List.replicate (refCount vld m.1.index point) ⟨m.1.index, m.2.id, point⟩ := by
  simp only [restoredRefs, List.flatMap_map]

section Refs

variable {members : List Supplied} (distinct : (members.map (·.1.index)).Nodup)
include distinct

theorem nodup_restoredMembers : ((restoredMembers members).map (·.1.index)).Nodup := by
  rwa [restoredMembers, List.map_map]

private theorem vnfd_of_mem_restoredRefs {vld : Vld} {ref : PointRef}
    (back : ref ∈ restoredRefs members vld) {m : Supplied} (member : m ∈ members)
    (index : ref.member = m.1.index) : ref.vnfd = m.2.id := by
  obtain ⟨owner, inMembers, ownerIndex, named, -⟩ := mem_restoredRefs.mp back
  have same := List.inj_on_of_nodup_map distinct inMembers member (ownerIndex.symm.trans index)
  rw [named, same]

/-- How many references to a connection point of a constituent come back. -/
private theorem refCount_restoredVld (vld : Vld) {m : Supplied} (member : m ∈ members)
    (point : String) :
    refCount (restoredVld members vld) m.1.index point =
      m.2.interfaceCount point * refCount vld m.1.index point := by
  have count := @refCount_eq_count (restoredVld members vld)
    { member := m.1.index, vnfd := m.2.id, point := point }
    fun other back index => vnfd_of_mem_restoredRefs distinct back member index
  exact count.trans (count_restoredRefs distinct vld member rfl rfl)

/-- The references of a link that came back come back as they are exactly if each is to a connection
point with one interface. -/
theorem restoredRefs_eq_iff (inOrder : ∀ m ∈ members, (restoredVnfd m.2).PointsInOrder)
    (vld : Vld) :
    restoredRefs (restoredMembers members) (restoredVld members vld) = restoredRefs members vld ↔
      ∀ ref ∈ restoredRefs members vld, ∀ m ∈ members, ref.member = m.1.index →
        m.2.interfaceCount ref.point = 1 := by
  constructor
  · intro same ref back m member index
    have named := vnfd_of_mem_restoredRefs distinct back member index
    have inBack : (m.1, restoredVnfd m.2) ∈ restoredMembers members := List.mem_map_of_mem member
    have once := count_restoredRefs distinct vld member index named
    have twice := count_restoredRefs (nodup_restoredMembers distinct) (restoredVld members vld)
      inBack index named
    rw [same, once, index, interfaceCount_restored, refCount_restoredVld distinct vld member]
      at twice
    -- Coming back once more multiplies the count by the interfaces, so there can only be one.
    have positive : 0 < m.2.interfaceCount ref.point * refCount vld m.1.index ref.point := by
      rw [← index, ← once]
      exact List.count_pos_iff.mpr back
    exact (Nat.eq_of_mul_eq_mul_right positive (twice.symm.trans (Nat.one_mul _).symm))
  · intro single
    rw [restoredRefs_eq_flatMap, restoredRefs_eq_flatMap, restoredMembers, List.flatMap_map]
    refine List.flatMap_congr fun m member => ?_
    have points : (restoredVnfd m.2).interfaces.map (·.2.pointRef) =
        m.2.interfaces.map (·.2.pointRef) := by
      rw [← inOrder m member]
      exact List.map_map
    rw [points]
    refine List.flatMap_congr fun point carried => ?_
    have carried : 0 < m.2.interfaceCount point := by
      obtain ⟨entry, inInterfaces, rfl⟩ := List.mem_map.mp carried
      exact Vnfd.interfaceCount_pos.mpr ⟨entry, inInterfaces, rfl⟩
    have count : refCount (restoredVld members vld) m.1.index point =
        refCount vld m.1.index point := by
      rw [refCount_restoredVld distinct vld member point]
      rcases Nat.eq_zero_or_pos (refCount vld m.1.index point) with none | asked
      · rw [none, Nat.mul_zero]
      · have back : (⟨m.1.index, m.2.id, point⟩ : PointRef) ∈ restoredRefs members vld :=
          mem_restoredRefs.mpr ⟨m, member, rfl, rfl, carried, asked⟩
        rw [single _ back m member rfl, Nat.one_mul]
    exact congrArg (List.replicate · _) count

end Refs

/-! ## Paths -/

private theorem map_place_numberedHops (order : Nat) (hops : List PathHop) :
    (numberedHops order hops).map (·.place) = hops.map (·.place) := by
  induction hops generalizing order with
  | nil => rfl
  | cons hop rest ih => rw [numberedHops, List.map_cons, List.map_cons, ih]; rfl

/-- Numbering hops leaves nothing of them but their places. -/
private theorem numberedHops_eq_iff {order : Nat} {hops others : List PathHop} :
    numberedHops order hops = numberedHops order others ↔
      hops.map (·.place) = others.map (·.place) := by
  constructor
  · intro same
    rw [← map_place_numberedHops order, same, map_place_numberedHops]
  · intro same
    induction hops generalizing order others with
    | nil =>
      obtain rfl : others = [] := by simpa using same.symm
      rfl
    | cons hop rest ih =>
      cases others with
      | nil => cases same
      | cons other others =>
        obtain ⟨place, restSame⟩ := List.cons.inj same
        obtain ⟨member, place⟩ := Prod.mk.inj place
        obtain ⟨vnfd, point⟩ := Prod.mk.inj place
        rw [numberedHops, numberedHops, ih restSame, member, vnfd, point]

private theorem hasInterfaceOn_restored (vnfd : Vnfd) (point : String) :
    hasInterfaceOn (restoredVnfd vnfd) point = hasInterfaceOn vnfd point := by
  have carried (vnfd : Vnfd) :
      hasInterfaceOn vnfd point = true ↔ 0 < vnfd.interfaceCount point := by
    simp [hasInterfaceOn, Vnfd.interfaceCount_pos]
  rw [Bool.eq_iff_iff, carried, carried, interfaceCount_restored]

private theorem hopVnfd?_again {members : List Supplied} {hop again : PathHop} {vnfd : String}
    (found : hopVnfd? members hop = some vnfd) (member : again.member = hop.member)
    (point : again.point = hop.point) : hopVnfd? (restoredMembers members) again = some vnfd := by
  obtain ⟨supplied, known, kept⟩ := Option.bind_eq_some_iff.mp found
  rw [hopVnfd?, member, point, member?_restoredMembers, known, Option.map_some, Option.bind_some,
    hasInterfaceOn_restored]
  exact kept

private theorem exists_of_mem_numberedHops {order : Nat} {hops : List PathHop} {hop : PathHop}
    (member : hop ∈ numberedHops order hops) : ∃ source ∈ hops, hop.place = source.place := by
  have place := List.mem_map_of_mem (f := PathHop.place) member
  rw [map_place_numberedHops] at place
  obtain ⟨source, inHops, same⟩ := List.mem_map.mp place
  exact ⟨source, inHops, same.symm⟩

/-- The hops of a path that came back are kept, in the order of their numbers. -/
private theorem hops_again (members : List Supplied) (path : ServicePath) :
    (restoredPath (restoredMembers members) (restoredPath members path)).hops =
      numberedHops 1 ((restoredPath members path).hops.mergeSort fun a b => a.order ≤ b.order) := by
  have kept : ∀ hop ∈ (restoredPath members path).hops.mergeSort (fun a b => a.order ≤ b.order),
      ((hopVnfd? (restoredMembers members) hop).map fun vnfd => { hop with vnfd := vnfd }) =
        some hop := by
    intro hop member
    obtain ⟨numbered, inHops, place⟩ := exists_of_mem_numberedHops (List.mem_mergeSort.mp member)
    obtain ⟨source, -, chosen⟩ := List.mem_filterMap.mp inHops
    obtain ⟨vnfd, found, rfl⟩ := Option.map_eq_some_iff.mp chosen
    obtain ⟨sameMember, place⟩ := Prod.mk.inj place
    obtain ⟨sameVnfd, samePoint⟩ := Prod.mk.inj place
    have sameVnfd : hop.vnfd = vnfd := sameVnfd
    rw [hopVnfd?_again found sameMember samePoint, Option.map_some, ← sameVnfd]
  exact congrArg (numberedHops 1) ((List.filterMap_congr kept).trans List.filterMap_some)

/-- A path that came back comes back as it is exactly if its hops are in order. -/
theorem restoredPath_eq_iff (members : List Supplied) (path : ServicePath) :
    restoredPath (restoredMembers members) (restoredPath members path) =
      restoredPath members path ↔ (restoredPath members path).HopsInOrder := by
  have whole : restoredPath (restoredMembers members) (restoredPath members path) =
      restoredPath members path ↔
        (restoredPath (restoredMembers members) (restoredPath members path)).hops =
          (restoredPath members path).hops := by
    constructor
    · exact fun same => congrArg ServicePath.hops same
    · intro same
      calc restoredPath (restoredMembers members) (restoredPath members path)
          = { restoredPath members path with
              hops := (restoredPath (restoredMembers members) (restoredPath members path)).hops } :=
            rfl
        _ = restoredPath members path := by rw [same]
  obtain ⟨kept, numbered⟩ : ∃ kept, (restoredPath members path).hops = numberedHops 1 kept :=
    ⟨_, rfl⟩
  rw [whole, hops_again, ServicePath.HopsInOrder, numbered, numberedHops_eq_iff,
    map_place_numberedHops]

/-! ## Services -/

theorem restoredGraph_eq_iff (members : List Supplied) (graph : ForwardingGraph) :
    restoredGraph (restoredMembers members) (restoredGraph members graph) =
      restoredGraph members graph ↔
        ∀ path ∈ (restoredGraph members graph).paths, path.HopsInOrder := by
  have paths : (graph.paths.map (restoredPath members)).map
      (restoredPath (restoredMembers members)) = graph.paths.map (restoredPath members) ↔
        ∀ path ∈ graph.paths.map (restoredPath members), path.HopsInOrder := by
    rw [listMap_eq_self, List.forall_mem_map, List.forall_mem_map]
    exact forall₂_congr fun path _ => restoredPath_eq_iff members path
  constructor
  · exact fun same => paths.mp (congrArg ForwardingGraph.paths same)
  · intro inOrder
    calc restoredGraph (restoredMembers members) (restoredGraph members graph)
        = { restoredGraph members graph with
            paths := (graph.paths.map (restoredPath members)).map
              (restoredPath (restoredMembers members)) } := rfl
      _ = restoredGraph members graph := by
        rw [paths.mpr inOrder]
        rfl

/-- A service that came back comes back as it is exactly if its links and its graphs do. -/
theorem restoredNsd_eq_iff (nsd : Nsd) (members : List Supplied) :
    restoredNsd (restoredNsd nsd members) (restoredMembers members) = restoredNsd nsd members ↔
      (∀ vld ∈ nsd.vlds, restoredRefs (restoredMembers members) (restoredVld members vld) =
        restoredRefs members vld) ∧
      ∀ graph ∈ (restoredNsd nsd members).graphs, ∀ path ∈ graph.paths, path.HopsInOrder := by
  have vlds : (nsd.vlds.map (restoredVld members)).map (restoredVld (restoredMembers members)) =
      nsd.vlds.map (restoredVld members) ↔
        ∀ vld ∈ nsd.vlds, restoredRefs (restoredMembers members) (restoredVld members vld) =
          restoredRefs members vld := by
    rw [listMap_eq_self, List.forall_mem_map]
    exact forall₂_congr fun vld _ => restoredVld_eq_iff members vld
  have graphs : (nsd.graphs.map (restoredGraph members)).map
      (restoredGraph (restoredMembers members)) = nsd.graphs.map (restoredGraph members) ↔
        ∀ graph ∈ nsd.graphs.map (restoredGraph members), ∀ path ∈ graph.paths,
          path.HopsInOrder := by
    rw [listMap_eq_self, List.forall_mem_map, List.forall_mem_map]
    exact forall₂_congr fun graph _ => restoredGraph_eq_iff members graph
  have scaling : (nsd.scalingGroups.map (restoredScaling members)).map
      (restoredScaling (restoredMembers members)) =
        nsd.scalingGroups.map (restoredScaling members) :=
    listMap_eq_self.mpr (List.forall_mem_map.mpr fun group _ => restoredScaling_again members group)
  have placements : (nsd.placementGroups.map (restoredPlacement members)).map
      (restoredPlacement (restoredMembers members)) =
        nsd.placementGroups.map (restoredPlacement members) :=
    listMap_eq_self.mpr
      (List.forall_mem_map.mpr fun group _ => restoredPlacement_again members group)
  constructor
  · intro same
    exact ⟨vlds.mp (congrArg Nsd.vlds same), graphs.mp (congrArg Nsd.graphs same)⟩
  · rintro ⟨linksStay, inOrder⟩
    calc restoredNsd (restoredNsd nsd members) (restoredMembers members)
        = { restoredNsd nsd members with
            vlds := (nsd.vlds.map (restoredVld members)).map
              (restoredVld (restoredMembers members))
            scalingGroups := (nsd.scalingGroups.map (restoredScaling members)).map
              (restoredScaling (restoredMembers members))
            placementGroups := (nsd.placementGroups.map (restoredPlacement members)).map
              (restoredPlacement (restoredMembers members))
            primitives := (((nsd.primitives.map restoredPrimitive).mergeSort
              fun a b => a.seq ≤ b.seq).map restoredPrimitive).mergeSort fun a b => a.seq ≤ b.seq
            graphs := (nsd.graphs.map (restoredGraph members)).map
              (restoredGraph (restoredMembers members)) } := rfl
      _ = restoredNsd nsd members := by
        rw [vlds.mpr linksStay, scaling, placements, restoredPrimitives_again, graphs.mpr inOrder]
        rfl

end NfvCatalog.Translation
