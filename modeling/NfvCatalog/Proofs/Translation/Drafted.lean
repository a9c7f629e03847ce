import NfvCatalog.Proofs.Translation.Groups
import NfvCatalog.Proofs.Translation.Points

/-! # The drafts of a layout

Translating the template of a layout phase by phase gives one draft for each of its parts, in order.
It fails only for a size that does not fit or a configuration without a JSON form.
-/

namespace NfvCatalog.Translation

open Tosca

/-- Every function of a layout can be translated. -/
structure Layout.Translatable (layout : Layout) : Prop where
  sizes : ∀ m ∈ layout.members, ∀ vdu ∈ m.vnfd.vdus, vdu.SizesFit
  configurations : ∀ m ∈ layout.members, m.vnfd.ConfigurationReads

namespace Layout

/-! ## Names -/

section Names

variable {layout : Layout} (distinct : layout.names.Nodup)
include distinct

theorem nodup_links : (layout.links.map Prod.fst).Nodup :=
  (List.Nodup.of_append_left distinct).of_append_left

private theorem nodup_members : (layout.members.flatMap (·.names)).Nodup :=
  (List.Nodup.of_append_left distinct).of_append_right

theorem nodup_functions : (layout.members.map (·.vnf)).Nodup := by
  rw [List.map_eq_flatMap]
  refine (nodup_members distinct).sublist (List.Sublist.flatMap_right _ fun m _ => ?_)
  exact List.cons_sublist_cons.mpr (List.nil_sublist _)

theorem nodup_machines :
    (layout.members.flatMap fun m => m.machines.map Prod.fst).Nodup :=
  (nodup_members distinct).sublist (List.Sublist.flatMap_right _ fun _ _ =>
    (List.sublist_append_left ..).cons _)

theorem nodup_points :
    (layout.members.flatMap fun m => m.interfaces.map Prod.fst).Nodup :=
  (nodup_members distinct).sublist (List.Sublist.flatMap_right _ fun _ _ =>
    (List.sublist_append_right (_ :: _) _))

theorem nodup_paths : (layout.graphs.flatMap fun g => g.paths.map Prod.fst).Nodup :=
  (List.Nodup.of_append_right distinct).sublist
    (List.Sublist.flatMap_right _ fun _ _ => List.sublist_append_left ..)

end Names

/-! ## Drafts -/

/-- The drafts of a layout's links with all references. -/
def linkDrafts (layout : Layout) : List LinkDraft :=
  layout.links.map fun link =>
    { linkDraft link with
      points := layout.members.zipIdx.flatMap fun entry =>
        linkedPoints layout.links entry.1.member.index entry.2 link.1 entry.1.interfaces }

/-- The drafts of a layout's connection points. -/
def pointDrafts (layout : Layout) : List PointDraft :=
  layout.members.zipIdx.flatMap fun entry => entry.1.interfaces.map (pointDraft entry.2)

/-- The drafts of a layout's functions. -/
def functionDrafts (layout : Layout) (inService : Bool) : List FunctionDraft :=
  layout.members.map (wholeDraft inService)

/-- The drafts of a layout's paths. -/
def pathDrafts (layout : Layout) : List PathDraft :=
  layout.graphs.flatMap fun g => g.paths.map (pathDraft layout.members)

/-- What a layout is drafted as. -/
def drafts (layout : Layout) (inService : Bool) : Drafts :=
  { links := layout.linkDrafts
    machines := ownedMachines 0 layout.members
    functions := layout.functionDrafts inService
    points := layout.pointDrafts
    paths := layout.pathDrafts
    graphs := layout.graphs.map (graphDraft layout.pathDrafts)
    scaling := layout.scaling.map fun g =>
      scalingDraft (layout.functionDrafts inService) layout.members g.2
    placements := layout.placements.map fun g =>
      placementDraft (layout.functionDrafts inService) layout.members g.2
    primitives := layout.primitives.map fun p => restoredPrimitive p.2 }

private theorem nodes_ownedMachines (place : Nat) (members : List MemberNodes) :
    (ownedMachines place members).map (·.node) =
      members.flatMap fun m => m.machines.map Prod.fst := by
  have node (owner : Option Nat) (machine : String × Vdu) :
      (machineDraft owner machine).node = machine.1 := rfl
  induction members generalizing place with
  | nil => rfl
  | cons m rest ih =>
    have others := ih (place + 1)
    simp only [ownedMachines] at others ⊢
    rw [List.zipIdx_cons, List.flatMap_cons, List.flatMap_cons, List.map_append, others]
    simp [node, Function.comp_def]

/-- The machines that constituents own are found by their nodes. -/
private theorem find?_ownedMachines {members : List MemberNodes} {place : Nat}
    (distinct : (members.flatMap fun m => m.machines.map Prod.fst).Nodup) {m : MemberNodes}
    {owner : Nat} (member : (m, owner) ∈ members.zipIdx place) {machine : String × Vdu}
    (inMachines : machine ∈ m.machines) :
    (ownedMachines place members).find? (·.node = machine.1) =
      some (machineDraft (some owner) machine) := by
  have owned : machineDraft (some owner) machine ∈ ownedMachines place members :=
    List.mem_flatMap.mpr ⟨(m, owner), member, List.mem_map_of_mem inMachines⟩
  exact find?_key (fun draft : MachineDraft => draft.node)
    (nodes_ownedMachines place members ▸ distinct) owned

/-! ## The run -/

section Run

variable {layout : Layout} {nsd : Nsd} {members : List Supplied}
  (describes : layout.Describes nsd members) (inService : Bool) (freshId : Nat → String)

/-- The drafts before any connection point. -/
private def headDrafts (layout : Layout) (inService : Bool) : Drafts :=
  { links := layout.links.map linkDraft
    machines := ownedMachines 0 layout.members
    functions := layout.members.map (functionDraft inService) }

include describes

/-- Links, machines and functions: the phases that may fail. -/
private theorem runWork_head (d : Drafts) :
    runWork (layout.surroundings nsd inService freshId)
        (layout.links.map linkItem ++
          layout.members.flatMap (fun m => m.machines.map machineItem) ++
          layout.members.map (functionItem inService)) { } = .ok d ↔
      layout.Translatable ∧ d = headDrafts layout inService := by
  have machinesKnown : ∀ m ∈ layout.members, ∀ machine ∈ m.machines,
      (layout.surroundings nsd inService freshId).Knows machine.1 .vdu :=
    fun m inLayout machine member =>
      knows_machine describes.distinct nsd inService freshId inLayout member
  have machineItems : layout.members.flatMap (fun m => m.machines.map machineItem) =
      (layout.members.flatMap (·.machines)).map machineItem := by
    rw [List.map_flatMap]
  have functions := @runWork_functions _ inService _ describes.complete machinesKnown []
    { links := layout.links.map linkDraft
      machines := (layout.members.flatMap (·.machines)).map (machineDraft none) }
    (by rw [List.map_flatMap]; rfl) (nodup_machines describes.distinct) d
  have sizes : (∀ machine ∈ layout.members.flatMap (·.machines), machine.2.SizesFit) ↔
      ∀ m ∈ layout.members, ∀ vdu ∈ m.vnfd.vdus, vdu.SizesFit := by
    simp only [List.forall_mem_flatMap]
    refine forall₂_congr fun m inLayout => ?_
    rw [← (describes.complete m inLayout).machines, List.forall_mem_map]
  rw [runWork_append, machineItems]
  simp only [runWork_append, runWork_links, runWork_machines, Except.ok.injEq, exists_eq_left',
    sizes, List.nil_append]
  constructor
  · rintro ⟨_, ⟨sized, rfl⟩, ran⟩
    obtain ⟨readable, rfl⟩ := functions.mp ran
    exact ⟨⟨sized, readable⟩, rfl⟩
  · rintro ⟨⟨sized, readable⟩, rfl⟩
    exact ⟨_, ⟨sized, rfl⟩, functions.mpr ⟨readable, rfl⟩⟩

/-- Connection points, paths, graphs and policies: the phases that succeed. -/
private theorem runWork_tail :
    runWork (layout.surroundings nsd inService freshId)
        (layout.members.flatMap (fun m => m.interfaces.map (pointItem layout.links m)) ++
          (layout.graphs.flatMap (fun g => g.paths.map (pathItem layout.members)) ++
            (layout.graphs.map graphItem ++
              (layout.scaling.map (scalingItem layout.members) ++
                (layout.placements.map (placementItem layout.members) ++
                  layout.primitives.map primitiveItem))))) (headDrafts layout inService) =
      .ok (layout.drafts inService) := by
  have points := @runWork_points (layout.surroundings nsd inService freshId) layout.links inService
    (fun link member => knows_link describes.distinct nsd inService freshId member)
    layout.members describes.complete
    (fun m inLayout machine member =>
      knows_machine describes.distinct nsd inService freshId inLayout member)
    [] (headDrafts layout inService) rfl
    (fun entry member machine inMachines =>
      find?_ownedMachines (nodup_machines describes.distinct) member inMachines)
    (by simpa [headDrafts, linkDraft, Function.comp_def] using nodup_links describes.distinct)
  have functionsKnown : ∀ m ∈ layout.members,
      (layout.surroundings nsd inService freshId).Knows m.vnf .vnf :=
    fun m inLayout => knows_function describes.distinct nsd inService freshId inLayout
  have drafted : ∀ m ∈ layout.members,
      ∃ function ∈ layout.functionDrafts inService, function.node = m.vnf :=
    fun m inLayout => ⟨wholeDraft inService m, List.mem_map_of_mem inLayout, rfl⟩
  have pathItems : layout.graphs.flatMap (fun g => g.paths.map (pathItem layout.members)) =
      (layout.graphs.flatMap (·.paths)).map (pathItem layout.members) := by
    rw [List.map_flatMap]
  have pathsDrafted : (layout.graphs.flatMap (·.paths)).map (pathDraft layout.members) =
      layout.pathDrafts := by
    rw [Layout.pathDrafts, List.map_flatMap]
  have pathsFound : ∀ g ∈ layout.graphs, ∀ path ∈ g.paths,
      ∃ other ∈ layout.pathDrafts, other.node = path.1 := fun g inGraphs path inPaths =>
    ⟨pathDraft layout.members path,
      List.mem_flatMap.mpr ⟨g, inGraphs, List.mem_map_of_mem inPaths⟩, rfl⟩
  refine (runWork_append ..).mpr ⟨_, points, ?_⟩
  refine (runWork_append ..).mpr ⟨_, pathItems ▸ runWork_paths (fun m inLayout entry member =>
    knows_point describes.distinct nsd inService freshId inLayout member) _ _, ?_⟩
  rw [pathsDrafted]
  refine (runWork_append ..).mpr ⟨_, runWork_graphs _ pathsFound, ?_⟩
  refine (runWork_append ..).mpr ⟨_, runWork_scaling functionsKnown drafted _, ?_⟩
  refine (runWork_append ..).mpr ⟨_, runWork_placements functionsKnown drafted _, ?_⟩
  rw [runWork_primitives]
  simp [headDrafts, Layout.drafts, Layout.linkDrafts, Layout.pointDrafts, Layout.functionDrafts,
    linkDraft, Function.comp_def]

/-- Translating a layout phase by phase ends in its drafts. -/
theorem runWork_items (d : Drafts) :
    runWork (layout.surroundings nsd inService freshId) (inPhases (layout.items inService)) { } =
        .ok d ↔
      layout.Translatable ∧ d = layout.drafts inService := by
  have split : inPhases (layout.items inService) =
      (layout.links.map linkItem ++
        layout.members.flatMap (fun m => m.machines.map machineItem) ++
        layout.members.map (functionItem inService)) ++
      (layout.members.flatMap (fun m => m.interfaces.map (pointItem layout.links m)) ++
        (layout.graphs.flatMap (fun g => g.paths.map (pathItem layout.members)) ++
          (layout.graphs.map graphItem ++
            (layout.scaling.map (scalingItem layout.members) ++
              (layout.placements.map (placementItem layout.members) ++
                layout.primitives.map primitiveItem))))) := by
    simp [inPhases_items]
  have tail := runWork_tail describes inService freshId
  rw [split, runWork_append]
  constructor
  · rintro ⟨_, ran, rest⟩
    obtain ⟨translatable, rfl⟩ := (runWork_head describes inService freshId _).mp ran
    rw [tail] at rest
    exact ⟨translatable, (Except.ok.inj rest).symm⟩
  · rintro ⟨translatable, rfl⟩
    exact ⟨_, (runWork_head describes inService freshId _).mpr ⟨translatable, rfl⟩, tail⟩

end Run

end Layout

end NfvCatalog.Translation
