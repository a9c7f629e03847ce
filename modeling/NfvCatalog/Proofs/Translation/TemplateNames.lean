import Mathlib.Algebra.GroupWithZero.Nat
import Mathlib.Data.List.Perm.Basic
import NfvCatalog.Proofs.Translation.RoundTrip

/-! # The names of a template

The nodes and groups of a template that was written for descriptors have different names, whatever
the descriptors call their parts. So no node takes the place of another, and the nodes can be
counted from the descriptors.
-/

/-! ## What is counted -/

namespace NfvCatalog

/-- The number of nodes that a function has: its own, one for each machine and one for each
interface. -/
def Vnfd.nodeCount (vnfd : Vnfd) : Nat :=
  1 + vnfd.vdus.length + vnfd.interfaces.length

namespace DescriptorSet

/-- The ids of the functions that take part in what a set describes: those of the constituents of
its services, or all functions if there is no service. -/
def memberIds (set : DescriptorSet) : List String :=
  if set.nsds.isEmpty then set.vnfds.map (·.id)
  else set.nsds.flatMap fun nsd => nsd.constituents.map (·.vnfd)

/-- The paths through the services of a set. -/
def servicePaths (set : DescriptorSet) : List ServicePath :=
  set.nsds.flatMap fun nsd => nsd.graphs.flatMap (·.paths)

end DescriptorSet

end NfvCatalog

namespace NfvCatalog.Translation

open Tosca

/-! ## The form of names -/

/-- A text that may name a node: it is not empty and has only letters, digits and underscores. -/
structure IsNodeName (name : String) : Prop where
  filled : name ≠ ""
  chars : ∀ c ∈ name.toList, c.isAlphanum = true ∨ c = '_'

theorem isNodeName_nodeBase (raw : String) : IsNodeName (nodeBase raw) := by
  rw [nodeBase]
  split
  · have letters : "node".toList.all Char.isAlphanum = true := rfl
    exact ⟨by decide, fun c member => .inl (List.all_eq_true.mp letters c member)⟩
  · next filled =>
    constructor
    · intro blank
      have none : raw.toList = [] := by simpa using congrArg String.toList blank
      exact filled (by simpa using none)
    · intro c member
      rw [String.toList_ofList] at member
      obtain ⟨d, -, rfl⟩ := List.mem_map.mp member
      split
      · next fits => simpa [isNameChar] using fits
      · exact .inr rfl

/-- A number behind a name is part of a name. -/
theorem IsNodeName.numbered {base : String} (named : IsNodeName base) (n : Nat) :
    IsNodeName (base ++ "_" ++ toString n) := by
  constructor
  · intro blank
    have lengths := congrArg String.length blank
    simp at lengths
  · intro c member
    simp only [String.toList_append, List.mem_append] at member
    rcases member with (inBase | line) | digit
    · exact named.chars c inBase
    · exact .inr (by simpa using line)
    · have digits : (toString n).toList = Nat.toDigits 10 n := Nat.toList_repr
      rw [digits] at digit
      have isDigit := Nat.isDigit_of_mem_toDigits (by decide) (by decide) digit
      exact .inl (by simp [Char.isAlphanum, isDigit])

theorem isNodeName_of_mem_variants {base name : String} {taken : Nat} (named : IsNodeName base)
    (member : name ∈ variants base taken) : IsNodeName name := by
  rcases List.mem_cons.mp member with rfl | member
  · exact named
  · obtain ⟨n, -, rfl⟩ := List.mem_map.mp member
    exact named.numbered (n + 2)

theorem isNodeName_freeName (used : List String) (raw : String) :
    IsNodeName (freeName used raw) := by
  have base := isNodeName_nodeBase raw
  rw [freeName]
  cases found : (variants (nodeBase raw) used.length).find? (· ∉ used) with
  | none => exact base
  | some name => exact isNodeName_of_mem_variants base (List.mem_of_find?_eq_some found)

theorem isNodeName_allocate (used raws : List String) :
    ∀ name ∈ (allocate used raws).1, IsNodeName name := by
  induction raws generalizing used with
  | nil => simp [allocate]
  | cons raw rest ih =>
    refine List.forall_mem_cons.mpr ⟨?_, ?_⟩
    · exact isNodeName_freeName used raw
    · exact ih (freeName used raw :: used)

/-- The names that stand with items were given to them. -/
private theorem isNodeName_zip {α : Type} (used raws : List String) (items : List α) :
    ∀ name ∈ ((allocate used raws).1.zip items).map Prod.fst, IsNodeName name := by
  intro name member
  obtain ⟨⟨_, item⟩, inZip, rfl⟩ := List.mem_map.mp member
  exact isNodeName_allocate used raws _ (List.of_mem_zip inZip).1

theorem isNodeName_memberNodes (vnfd : Vnfd) (member : ConstituentVnfd) (used : List String) :
    ∀ name ∈ (memberNodes vnfd member used).1.names, IsNodeName name := by
  simp only [MemberNodes.names, List.forall_mem_append, List.forall_mem_cons]
  refine ⟨⟨?_, ?_⟩, ?_⟩
  · exact isNodeName_freeName _ _
  · exact isNodeName_zip _ _ _
  · exact isNodeName_zip _ _ _

theorem isNodeName_allMemberNodes {set : DescriptorSet} {constituents : List ConstituentVnfd}
    {used taken : List String} {nodes : List MemberNodes}
    (named : allMemberNodes set used constituents = .ok (nodes, taken)) :
    ∀ m ∈ nodes, ∀ name ∈ m.names, IsNodeName name := by
  induction constituents generalizing used taken nodes with
  | nil =>
    obtain ⟨rfl, -⟩ : [] = nodes ∧ used = taken := by simpa [allMemberNodes] using named
    simp
  | cons member rest ih =>
    rw [allMemberNodes] at named
    split at named
    · cases named
    · next vnfd _ =>
      obtain ⟨⟨others, last⟩, restNamed, same⟩ := bind_eq_ok.mp named
      obtain ⟨rfl, -⟩ := Prod.mk.inj (Except.ok.inj same)
      refine List.forall_mem_cons.mpr ⟨?_, ?_⟩
      · exact isNodeName_memberNodes vnfd member used
      · exact ih restNamed

theorem isNodeName_allGraphNodes (used : List String) (graphs : List ForwardingGraph) :
    ∀ g ∈ allGraphNodes used graphs, ∀ name ∈ g.names, IsNodeName name := by
  induction graphs generalizing used with
  | nil => simp [allGraphNodes]
  | cons graph rest ih =>
    rw [allGraphNodes]
    refine List.forall_mem_cons.mpr ⟨?_, ih _⟩
    simp only [GraphNodes.names, List.forall_mem_append, List.forall_mem_singleton]
    constructor
    · exact isNodeName_zip _ _ _
    · exact isNodeName_freeName _ _

/-- Every name of a layout may name a node. -/
theorem isNodeName_layoutOf {set : DescriptorSet} {nsd : Nsd} {layout : Layout}
    (laid : layoutOf set nsd = .ok layout) : ∀ name ∈ layout.names, IsNodeName name := by
  obtain ⟨⟨members, taken⟩, named, same⟩ := bind_eq_ok.mp laid
  obtain rfl := Except.ok.inj same
  simp only [Layout.names, List.forall_mem_append, List.forall_mem_flatMap]
  refine ⟨⟨?_, ?_⟩, ?_⟩
  · exact isNodeName_zip _ _ _
  · exact isNodeName_allMemberNodes named
  · exact isNodeName_allGraphNodes _ _

/-! ## The names of nodes and groups -/

/-- The nodes and groups of a layout have the names of the layout. -/
theorem Layout.names_perm (layout : Layout) (inService : Bool) :
    ((layout.nodes inService).map Prod.fst ++ layout.groups.map Prod.fst).Perm layout.names := by
  have groups : layout.groups.map Prod.fst = layout.graphs.flatMap fun g => [g.group] := by
    simp [Layout.groups, List.map_eq_flatMap, List.flatMap_assoc]
  rw [Layout.names_nodes, groups, Layout.names, List.append_assoc]
  exact (List.flatMap_append_perm ..).append_left _

/-! ## The number of nodes -/

theorem MemberNodes.Complete.length_names {m : MemberNodes} (complete : m.Complete) :
    m.names.length = m.vnfd.nodeCount := by
  have machines : m.machines.length = m.vnfd.vdus.length := by
    rw [← complete.machines, List.length_map]
  have interfaces : m.interfaces.length = m.vnfd.interfaces.length := by
    rw [Vnfd.interfaces, ← complete.machines, ← List.length_map (f := Prod.snd),
      complete.interfaces]
    simp [List.length_flatMap, Function.comp_def]
  simp only [MemberNodes.names, List.length_append, List.length_cons, List.length_map, machines,
    interfaces, Vnfd.nodeCount]
  omega

namespace Layout.Describes

variable {layout : Layout} {nsd : Nsd} {members : List Supplied}
  (describes : layout.Describes nsd members)
include describes

/-- A layout has a node for each link, the nodes of each constituent, and a node for each path. -/
theorem length_nodes (inService : Bool) :
    (layout.nodes inService).length =
      nsd.vlds.length + (members.map (·.2.nodeCount)).sum +
        (nsd.graphs.flatMap (·.paths)).length := by
  have links : layout.links.length = nsd.vlds.length := by
    rw [← describes.links, List.length_map]
  have functions : (layout.members.map (·.names.length)).sum =
      (members.map (·.2.nodeCount)).sum := by
    rw [← describes.members, List.map_map]
    exact congrArg List.sum (List.map_congr_left fun m inLayout =>
      (describes.complete m inLayout).length_names)
  have paths : (layout.graphs.map (·.paths.length)).sum =
      (nsd.graphs.map (·.paths.length)).sum := by
    rw [← describes.graphs, List.map_map]
    refine congrArg List.sum (List.map_congr_left fun g inLayout => ?_)
    simp [← describes.paths g inLayout]
  rw [← List.length_map (f := Prod.fst), Layout.names_nodes]
  simp [List.length_flatMap, links, functions, paths, Nat.add_assoc]

end Layout.Describes

/-! ## Written templates -/

private theorem map_vnfd_looseService (first : Vnfd) (vnfds : List Vnfd) :
    (looseService first vnfds).constituents.map (·.vnfd) = vnfds.map (·.id) := by
  conv_rhs => rw [← List.zipIdx_map_fst 0 vnfds, List.map_map]
  rw [looseService, List.map_map]
  rfl

/-- What a set describes has the links, constituents and paths of the set. -/
theorem describedService_counts {set : DescriptorSet} {nsd : Nsd} {inService : Bool}
    (described : describedService set = .ok (nsd, inService)) :
    nsd.vlds = set.nsds.flatMap (·.vlds) ∧ nsd.constituents.map (·.vnfd) = set.memberIds ∧
      nsd.graphs.flatMap (·.paths) = set.servicePaths := by
  obtain ⟨nsds, vnfds⟩ := set
  rw [describedService] at described
  split at described <;> cases described
  · next single =>
    obtain rfl : nsds = [nsd] := single
    simp [DescriptorSet.memberIds, DescriptorSet.servicePaths]
  · next first rest none filled =>
    obtain rfl : nsds = [] := none
    obtain rfl : vnfds = first :: rest := filled
    refine ⟨rfl, ?_, rfl⟩
    exact map_vnfd_looseService first (first :: rest)

/-- The nodes and groups of a written template have different names of letters, digits and
underscores. No node takes the place of another: there are as many as links, parts of members and
paths. -/
theorem templateOf_names_distinct {set : DescriptorSet} {template : Template}
    (written : templateOf set = .ok template) :
    let topology := template.topology
    (topology.nodes.keys ++ topology.groups.keys).Nodup ∧
      (∀ name ∈ topology.nodes.keys ++ topology.groups.keys, IsNodeName name) ∧
      ∃ vnfds : List Vnfd, set.memberIds.map set.vnfd? = vnfds.map some ∧
        topology.nodes.size = (set.nsds.flatMap (·.vlds)).length +
          (vnfds.map Vnfd.nodeCount).sum + set.servicePaths.length := by
  obtain ⟨nsd, inService, members, layout, described, supplied, laid, describes, rfl⟩ :=
    exists_layout_of_templateOf written
  have names : ((layout.template nsd inService).topology.nodes.keys ++
      (layout.template nsd inService).topology.groups.keys).Perm layout.names := by
    rw [OrderedMap.keys, OrderedMap.keys, Layout.nodes_template describes.distinct,
      Layout.groups_template describes.distinct]
    exact layout.names_perm inService
  obtain ⟨links, ids, paths⟩ := describedService_counts described
  refine ⟨names.nodup_iff.mpr describes.distinct, fun name member => ?_,
    members.map Prod.snd, ?_, ?_⟩
  · exact isNodeName_layoutOf laid name (names.mem_iff.mp member)
  · rw [← ids, ← (supplies_of_supplied? supplied).constituents]
    simp only [List.map_map]
    exact List.map_congr_left fun m member => vnfd?_of_supplied? supplied m member
  · rw [OrderedMap.size, Layout.nodes_template describes.distinct, describes.length_nodes, links,
      paths, List.map_map]
    rfl

/-- A service whose parts have names that differ in nothing that a node's name may have, or like a
name with a number. -/
def clashingSet : DescriptorSet :=
  { nsds := [{
      id := "clash_nsd"
      constituents := [{ index := 1, vnfd := "a/b" }]
      vlds := [{ id := "one", name := "a.b" }, { id := "two", name := "a-b" },
        { id := "three", name := "a_b_2" }] }]
    vnfds := [{ id := "a/b", vdus := [{ id := "a b" }] }] }

/-- The parts of the service get names of their own. -/
theorem clashingSet_names_distinct :
    ∃ template, templateOf clashingSet = .ok template ∧
      template.topology.nodes.keys = ["a_b", "a_b_2", "a_b_2_2", "a_b_3", "a_b_4"] ∧
      (template.topology.nodes.keys ++ template.topology.groups.keys).Nodup ∧
      ∃ vnfds : List Vnfd, clashingSet.memberIds.map clashingSet.vnfd? = vnfds.map some ∧
        template.topology.nodes.size = 3 + (vnfds.map Vnfd.nodeCount).sum := by
  have keys : (templateOf clashingSet).toOption.map (·.topology.nodes.keys) =
      some ["a_b", "a_b_2", "a_b_2_2", "a_b_3", "a_b_4"] := by decide +kernel
  obtain ⟨template, written, keys⟩ := Option.map_eq_some_iff.mp keys
  have written := toOption_eq_some.mp written
  obtain ⟨distinct, -, vnfds, supplied, count⟩ := templateOf_names_distinct written
  exact ⟨template, written, keys, distinct, vnfds, supplied, count⟩

end NfvCatalog.Translation
