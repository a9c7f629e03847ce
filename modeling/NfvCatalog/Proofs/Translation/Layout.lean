import NfvCatalog.Proofs.Lists.Basic
import NfvCatalog.Proofs.Outcome
import NfvCatalog.Proofs.Translation.Restored
import Std.Data.String.ToNat

/-! # Layouts

A layout names every part of a service once: it has a node for each link, for each constituent, for
each machine and interface of a constituent and for each path, and no two nodes share a name. The
names of groups are apart from those of nodes, too.
-/

namespace NfvCatalog.Translation

open Tosca

/-! ## Fresh names

A name that is handed out is taken by no other node: the numbered variants of a name are all
different, so one of them is free beside any list of taken names.
-/

theorem nodup_variants (base : String) (taken : Nat) : (variants base taken).Nodup := by
  refine List.nodup_cons.mpr ⟨fun member => ?_, ?_⟩
  · obtain ⟨n, _, same⟩ := List.mem_map.mp member
    have lengths := congrArg String.length same
    simp only [String.length_append] at lengths
    have : ("_" : String).length = 1 := by decide
    omega
  · refine List.Nodup.map (fun m n same => ?_) List.nodup_range
    have digits : toString (m + 2) = toString (n + 2) := (String.append_right_inj _).mp same
    have := Nat.repr_inj.mp digits
    omega

theorem length_variants (base : String) (taken : Nat) :
    (variants base taken).length = taken + 1 := by
  simp [variants]

/-- A free name is not taken. -/
theorem freeName_not_mem (used : List String) (raw : String) : freeName used raw ∉ used := by
  have more : used.length < (variants (nodeBase raw) used.length).length := by
    rw [length_variants]
    omega
  obtain ⟨name, found, free⟩ := exists_find?_free used (nodup_variants _ _) more
  rw [freeName, found]
  exact free

/-- What is taken after naming texts: their names on top of what was taken before. -/
theorem allocate_snd (used raws : List String) :
    (allocate used raws).2 = (allocate used raws).1.reverse ++ used := by
  induction raws generalizing used with
  | nil => rfl
  | cons raw rest ih => simp [allocate, ih]

theorem length_allocate (used raws : List String) :
    (allocate used raws).1.length = raws.length := by
  induction raws generalizing used with
  | nil => rfl
  | cons raw rest ih => simp [allocate, ih]

/-- Names handed out one after another are all different, and none of them was taken. -/
theorem allocate_fresh (used raws : List String) :
    (allocate used raws).1.Nodup ∧ (allocate used raws).1.Disjoint used := by
  induction raws generalizing used with
  | nil => exact ⟨List.nodup_nil, List.disjoint_nil_left _⟩
  | cons raw rest ih =>
    obtain ⟨distinct, apart⟩ := ih (freeName used raw :: used)
    have own : freeName used raw ∉ (allocate (freeName used raw :: used) rest).1 :=
      fun member => apart member (List.mem_cons_self ..)
    refine ⟨List.nodup_cons.mpr ⟨own, distinct⟩, fun name member taken => ?_⟩
    rcases List.mem_cons.mp member with rfl | member
    · exact freeName_not_mem used raw taken
    · exact apart member (List.mem_cons_of_mem _ taken)

/-- The names taken after naming texts are all different if they were so before. -/
theorem nodup_allocate_snd {used : List String} (distinct : used.Nodup) (raws : List String) :
    (allocate used raws).2.Nodup := by
  obtain ⟨fresh, apart⟩ := allocate_fresh used raws
  rw [allocate_snd]
  exact (List.nodup_reverse.mpr fresh).append distinct
    fun name member => apart (List.mem_reverse.mp member)

/-! ## Names -/

/-- The names of a constituent's nodes. -/
def MemberNodes.names (m : MemberNodes) : List String :=
  m.vnf :: m.machines.map Prod.fst ++ m.interfaces.map Prod.fst

/-- The names of a graph's paths and of its group. -/
def GraphNodes.names (g : GraphNodes) : List String := g.paths.map Prod.fst ++ [g.group]

/-- All names of a layout. -/
def Layout.names (layout : Layout) : List String :=
  layout.links.map Prod.fst ++ layout.members.flatMap (·.names) ++ layout.graphs.flatMap (·.names)

/-- The nodes of a constituent stand for all of its machines and interfaces, in order. -/
structure MemberNodes.Complete (m : MemberNodes) : Prop where
  machines : m.machines.map Prod.snd = m.vnfd.vdus
  interfaces : m.interfaces.map Prod.snd =
    m.machines.flatMap fun machine => machine.2.interfaces.map fun i => (machine, i)

/-- A layout is that of a service with the descriptors of its constituents. -/
structure Layout.Describes (layout : Layout) (nsd : Nsd) (members : List Supplied) : Prop where
  links : layout.links.map Prod.snd = nsd.vlds
  members : layout.members.map (fun m => (m.member, m.vnfd)) = members
  complete : ∀ m ∈ layout.members, m.Complete
  graphs : layout.graphs.map (·.graph) = nsd.graphs
  paths : ∀ g ∈ layout.graphs, g.paths.map Prod.snd = g.graph.paths
  scaling : layout.scaling.map Prod.snd = nsd.scalingGroups
  placements : layout.placements.map Prod.snd = nsd.placementGroups
  primitives : layout.primitives.map Prod.snd = nsd.primitives
  distinct : layout.names.Nodup

private theorem map_fst_zip_allocate {α : Type} (used : List String) (raw : α → String)
    (items : List α) :
    ((allocate used (items.map raw)).1.zip items).map Prod.fst =
      (allocate used (items.map raw)).1 :=
  List.map_fst_zip (by simp [length_allocate])

private theorem map_snd_zip_allocate {α : Type} (used : List String) (raw : α → String)
    (items : List α) :
    ((allocate used (items.map raw)).1.zip items).map Prod.snd = items :=
  List.map_snd_zip (by simp [length_allocate])

/-! ## Constituents -/

theorem memberNodes_complete (vnfd : Vnfd) (member : ConstituentVnfd) (used : List String) :
    (memberNodes vnfd member used).1.Complete where
  machines := map_snd_zip_allocate _ (fun vdu : Vdu => labelOf vdu.name vdu.id) vnfd.vdus
  interfaces := map_snd_zip_allocate _ (fun i : (String × Vdu) × ExternalInterface => i.2.pointRef)
    _

/-- What is taken after naming a constituent's nodes. -/
theorem memberNodes_snd_perm (vnfd : Vnfd) (member : ConstituentVnfd) (used : List String) :
    (memberNodes vnfd member used).2.Perm ((memberNodes vnfd member used).1.names ++ used) := by
  simp only [memberNodes, MemberNodes.names, allocate_snd, map_fst_zip_allocate,
    map_fst_zip_allocate _ (fun i : (String × Vdu) × ExternalInterface => i.2.pointRef)]
  grind

theorem nodup_memberNodes_snd (vnfd : Vnfd) (member : ConstituentVnfd) {used : List String}
    (distinct : used.Nodup) : (memberNodes vnfd member used).2.Nodup :=
  nodup_allocate_snd (nodup_allocate_snd
    (List.nodup_cons.mpr ⟨freeName_not_mem used _, distinct⟩) _) _

/-- Constituents that are all supplied are named one after another. -/
theorem allMemberNodes_of_supplied {set : DescriptorSet} {constituents : List ConstituentVnfd}
    {members : List Supplied} (supplied : supplied? set constituents = some members)
    {used : List String} (distinct : used.Nodup) :
    ∃ nodes taken, allMemberNodes set used constituents = .ok (nodes, taken) ∧
      nodes.map (fun m => (m.member, m.vnfd)) = members ∧ (∀ m ∈ nodes, m.Complete) ∧
      taken.Perm (nodes.flatMap (·.names) ++ used) ∧ taken.Nodup := by
  induction constituents generalizing members used with
  | nil =>
    obtain rfl : [] = members := by simpa [supplied?] using supplied
    exact ⟨[], used, rfl, rfl, by simp, by simp, distinct⟩
  | cons member rest ih =>
    simp only [supplied?, Option.bind_eq_bind, Option.bind_eq_some_iff] at supplied
    obtain ⟨vnfd, found, others, restSupplied, same⟩ := supplied
    obtain rfl : (member, vnfd) :: others = members := by simpa using same
    obtain ⟨nodes, taken, named, faithful, complete, perm, apart⟩ :=
      ih restSupplied (nodup_memberNodes_snd vnfd member distinct)
    refine ⟨(memberNodes vnfd member used).1 :: nodes, taken, ?_, ?_, ?_, ?_, apart⟩
    · simp [allMemberNodes, found, named]
    · rw [List.map_cons, faithful]
      rfl
    · intro m inNodes
      rcases List.mem_cons.mp inNodes with rfl | inNodes
      · exact memberNodes_complete vnfd member used
      · exact complete m inNodes
    · refine perm.trans ?_
      have own := memberNodes_snd_perm vnfd member used
      rw [List.flatMap_cons]
      grind

/-- A constituent that is not supplied is refused. -/
theorem allMemberNodes_of_missing {set : DescriptorSet} {constituents : List ConstituentVnfd}
    (missing : supplied? set constituents = none) (used : List String) :
    ∃ error, allMemberNodes set used constituents = .error error := by
  induction constituents generalizing used with
  | nil => simp [supplied?] at missing
  | cons member rest ih =>
    cases found : set.vnfd? member.vnfd with
    | none => exact ⟨_, by rw [allMemberNodes, found]⟩
    | some vnfd =>
      have restMissing : supplied? set rest = none := by
        cases h : supplied? set rest with
        | none => rfl
        | some others => simp [supplied?, found, h] at missing
      obtain ⟨error, refused⟩ := ih restMissing (memberNodes vnfd member used).2
      refine ⟨error, ?_⟩
      simp [allMemberNodes, found, refused]

/-! ## Graphs -/

theorem allGraphNodes_graph (used : List String) (graphs : List ForwardingGraph) :
    (allGraphNodes used graphs).map (·.graph) = graphs := by
  induction graphs generalizing used with
  | nil => rfl
  | cons graph rest ih => simp [allGraphNodes, ih]

theorem allGraphNodes_paths (used : List String) (graphs : List ForwardingGraph) :
    ∀ g ∈ allGraphNodes used graphs, g.paths.map Prod.snd = g.graph.paths := by
  induction graphs generalizing used with
  | nil => simp [allGraphNodes]
  | cons graph rest ih =>
    intro g member
    rw [allGraphNodes] at member
    rcases List.mem_cons.mp member with rfl | member
    · exact map_snd_zip_allocate used (fun path : ServicePath => labelOf path.name path.id)
        graph.paths
    · exact ih _ g member

theorem nodup_allGraphNodes {used : List String} (distinct : used.Nodup)
    (graphs : List ForwardingGraph) :
    (used ++ (allGraphNodes used graphs).flatMap (·.names)).Nodup := by
  induction graphs generalizing used with
  | nil => simpa [allGraphNodes] using distinct
  | cons graph rest ih =>
    have named := ih (List.nodup_cons.mpr ⟨freeName_not_mem
      (allocate used (graph.paths.map fun path => labelOf path.name path.id)).2
      (labelOf graph.name graph.id), nodup_allocate_snd distinct _⟩)
    refine (List.Perm.nodup_iff ?_).mp named
    simp only [allGraphNodes, List.flatMap_cons, GraphNodes.names, allocate_snd,
      map_fst_zip_allocate used (fun path : ServicePath => labelOf path.name path.id)]
    grind

/-! ## Services -/

/-- A service whose functions are supplied has a layout. -/
theorem layoutOf_of_supplied {set : DescriptorSet} {nsd : Nsd} {members : List Supplied}
    (supplied : supplied? set nsd.constituents = some members) :
    ∃ layout, layoutOf set nsd = .ok layout ∧ layout.Describes nsd members := by
  have linksApart := nodup_allocate_snd List.nodup_nil
    (nsd.vlds.map fun vld => labelOf vld.name vld.id)
  obtain ⟨nodes, taken, named, faithful, complete, perm, apart⟩ :=
    allMemberNodes_of_supplied supplied linksApart
  refine ⟨_, by simp [layoutOf, named]; rfl, ?_⟩
  exact
    { links := map_snd_zip_allocate [] (fun vld : Vld => labelOf vld.name vld.id) nsd.vlds
      members := faithful
      complete := complete
      graphs := allGraphNodes_graph taken nsd.graphs
      paths := allGraphNodes_paths taken nsd.graphs
      scaling := map_snd_zip_allocate _ (fun group : ScalingGroup => group.name) _
      placements := map_snd_zip_allocate _ (fun group : PlacementGroup => group.name) _
      primitives := map_snd_zip_allocate _ (fun primitive : ConfigPrimitive => primitive.name) _
      distinct := by
        refine (List.Perm.nodup_iff ?_).mp (nodup_allGraphNodes apart nsd.graphs)
        refine (perm.append_right _).trans ?_
        simp only [Layout.names, allocate_snd,
          map_fst_zip_allocate [] (fun vld : Vld => labelOf vld.name vld.id)]
        grind }

/-- A service with a function that is not supplied has none. -/
theorem layoutOf_of_missing {set : DescriptorSet} {nsd : Nsd}
    (missing : supplied? set nsd.constituents = none) :
    ∃ error, layoutOf set nsd = .error error := by
  obtain ⟨error, refused⟩ := allMemberNodes_of_missing missing
    (allocate [] (nsd.vlds.map fun vld => labelOf vld.name vld.id)).2
  exact ⟨error, by simp [layoutOf, refused]⟩

/-- A template that was written for descriptors is that of a layout of the service they stand
for. -/
theorem exists_layout_of_templateOf {set : DescriptorSet} {template : Template}
    (written : templateOf set = .ok template) :
    ∃ nsd inService members layout, describedService set = .ok (nsd, inService) ∧
      supplied? set nsd.constituents = some members ∧ layoutOf set nsd = .ok layout ∧
        layout.Describes nsd members ∧ template = layout.template nsd inService := by
  simp only [templateOf, bind_eq_ok, pure_eq_ok] at written
  obtain ⟨⟨nsd, inService⟩, described, layout, laid, rfl⟩ := written
  cases supplied : supplied? set nsd.constituents with
  | none =>
    obtain ⟨missing, refused⟩ := layoutOf_of_missing supplied
    rw [laid] at refused
    cases refused
  | some members =>
    obtain ⟨_, same, describes⟩ := layoutOf_of_supplied supplied
    obtain rfl := Except.ok.inj (laid.symm.trans same)
    exact ⟨nsd, inService, members, layout, described, supplied, laid, describes, rfl⟩

end NfvCatalog.Translation
