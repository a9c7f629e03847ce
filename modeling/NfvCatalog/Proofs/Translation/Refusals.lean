import NfvCatalog.Proofs.Descriptor.Valid
import NfvCatalog.Proofs.Descriptor.Written
import NfvCatalog.Proofs.Translation.RoundTrip

/-! # Templates that are accepted or refused

What a template that was written for descriptors can be refused for.
-/

/-! ## Descriptors that are accepted

A service without errors comes back unless a size is too large to be counted in bytes. What reads as
a reference to an input is left out of account.
-/

namespace NfvCatalog.Translation

/-- A service without errors in which nothing reads as a reference to an input comes back exactly if
its memory and storage sizes fit into a word when they are counted in bytes. -/
theorem roundTrip_accepts {freshId : Nat → String} {set : DescriptorSet} {nsd : Nsd}
    {members : List Supplied} (single : set.nsds = [nsd])
    (supplied : supplied? set nsd.constituents = some members)
    (valid : Issue.hasErrors set.validate = false)
    (json : ∀ m ∈ members, m.2.ConfigurationIsJson) (free : FreeOfInputs nsd members) :
    (∃ out, roundTrip freshId set = .ok out) ↔
      ∀ m ∈ members, ∀ vdu ∈ m.2.vdus, ∀ flavor ∈ vdu.flavor,
        (∀ mb ∈ flavor.memoryMb, mb.toNat * 10 ^ 6 < 2 ^ 64) ∧
          ∀ gb ∈ flavor.storageGb, gb.toNat * 10 ^ 9 < 2 ^ 64 := by
  obtain ⟨_, vnfds⟩ := set
  obtain rfl : _ = [nsd] := single
  have distinct : (nsd.constituents.map (·.index)).Nodup := by
    simp only [DescriptorSet.validate, Issue.hasErrors_append, Issue.hasErrors_flatMap,
      List.forall_mem_singleton] at valid
    exact Nsd.nodup_indices_of_valid valid.2
  have readable : ∀ m ∈ members, m.2.ConfigurationReads := fun m member value given =>
    ⟨value, (json m member value given).toOpaque_eq⟩
  constructor
  · rintro ⟨out, translated⟩
    obtain ⟨_, same, restorable, -⟩ := (roundTrip_service ..).mp translated
    obtain rfl := Option.some.inj (supplied.symm.trans same)
    intro m member vdu inVdus flavor given
    obtain ⟨memory, storage⟩ := restorable.sizes m member vdu inVdus flavor given
    exact ⟨memory, storage⟩
  · intro fit
    refine ⟨_, (roundTrip_service ..).mpr ⟨members, supplied, ⟨?_, readable, free⟩, distinct, rfl⟩⟩
    intro m member vdu inVdus flavor given
    obtain ⟨memory, storage⟩ := fit m member vdu inVdus flavor given
    exact ⟨memory, storage⟩

/-- The pair has no errors and nothing that reads as a reference to an input, so that it is
accepted. -/
theorem pongPair_accepted :
    Issue.hasErrors pongPair.validate = false ∧ FreeOfInputs pongNsd pongMembers ∧
      ∃ out, roundTrip (fun _ => "") pongPair = .ok out := by
  have valid : Issue.hasErrors pongPair.validate = false := by decide
  have json : ∀ m ∈ pongMembers, m.2.ConfigurationIsJson := fun m member value given => by
    simp [eq_pongVnfd_of_mem member, pongVnfd] at given
  refine ⟨valid, pongMembers_restorable.free,
    (roundTrip_accepts rfl supplied?_pongPair valid json pongMembers_restorable.free).mpr ?_⟩
  intro m member vdu inVdus flavor given
  obtain ⟨memory, storage⟩ := pongMembers_restorable.sizes m member vdu inVdus flavor given
  exact ⟨memory, storage⟩

/-- A function with more memory than can be counted in bytes. -/
def hugeVnfd : Vnfd :=
  { id := "huge_vnfd"
    vdus := [
      { id := "huge_vdu"
        flavor := some { memoryMb := some 18446744073709551615 }
        image := some "huge.qcow2" }] }

/-- A service of the function. -/
def hugeSet : DescriptorSet :=
  { nsds := [{ id := "huge_nsd", constituents := [{ index := 1, vnfd := "huge_vnfd" }] }]
    vnfds := [hugeVnfd] }

/-- A service without errors may be refused: a size in its only function is too large. -/
theorem hugeSet_refused :
    Issue.hasErrors hugeSet.validate = false ∧
      ∀ out, roundTrip (fun _ => "") hugeSet ≠ .ok out := by
  refine ⟨by decide, fun out translated => ?_⟩
  obtain ⟨members, supplied, restorable, -⟩ := (roundTrip_service ..).mp translated
  obtain rfl : [(_, hugeVnfd)] = members := Option.some.inj supplied
  obtain ⟨memory, -⟩ := restorable.sizes _ (List.mem_cons_self ..) _ (List.mem_cons_self ..) _ rfl
  have fits := memory _ rfl
  revert fits
  decide

/-! ## Templates that are refused

A template that was written for descriptors is well wired: every name that it mentions is a node of
the right kind with one owner. So it is refused only for what the descriptors themselves say: a
member index that is given twice, or a size that is too large to be counted in bytes.
-/

open Tosca

section Layout

variable {layout : Layout} {nsd : Nsd} {members : List Supplied}
  (describes : layout.Describes nsd members) {inService : Bool} {freshId : Nat → String}
  {error : TranslationError}

include describes in
/-- Doing the work of a layout fails only at a machine, for one of its sizes. -/
private theorem runWork_items_error (readable : ∀ m ∈ layout.members, m.vnfd.ConfigurationReads)
    (failed : runWork (layout.surroundings nsd inService freshId)
      (inPhases (layout.items inService)) { } = .error error) :
    ∃ m ∈ layout.members, ∃ vdu ∈ m.vnfd.vdus, ∃ node, Oversized node vdu error := by
  have machineItems : layout.members.flatMap (fun m => m.machines.map machineItem) =
      (layout.members.flatMap (·.machines)).map machineItem := by
    rw [List.map_flatMap]
  have whole := failed
  simp only [Layout.inPhases_items, machineItems, List.append_assoc] at failed
  rw [runWork_append_eq, runWork_links, ok_bind, runWork_append_eq] at failed
  rcases bind_eq_error.mp failed with failed | ⟨between, ran, -⟩
  · obtain ⟨machine, member, oversized⟩ := runWork_machines_error failed
    obtain ⟨m, inLayout, inMachines⟩ := List.mem_flatMap.mp member
    refine ⟨m, inLayout, machine.2, ?_, machine.1, oversized⟩
    rw [← (describes.complete m inLayout).machines]
    exact List.mem_map_of_mem inMachines
  · -- All sizes fit, so nothing else can fail.
    have sized := ((runWork_machines ..).mp ran).1
    have translatable : layout.Translatable := by
      refine ⟨fun m inLayout vdu inVdus => ?_, readable⟩
      rw [← (describes.complete m inLayout).machines] at inVdus
      obtain ⟨machine, inMachines, rfl⟩ := List.mem_map.mp inVdus
      exact sized machine (List.mem_flatMap_of_mem inLayout inMachines)
    have done := (Layout.runWork_items describes inService freshId _).mpr ⟨translatable, rfl⟩
    rw [whole] at done
    cases done

/-- The drafts of a layout fail to be assembled only for a member index. -/
private theorem assemble_error
    (refused : ∀ given, memberIndices (layout.functionDrafts inService) ≠ .ok given)
    (failed : assemble (layout.surroundings nsd inService freshId) (layout.drafts inService) =
      .error error) : ∃ index, error = .duplicateIndex index := by
  obtain ⟨index, duplicate⟩ := memberIndices_error refused
  have functions : (layout.drafts inService).functions = layout.functionDrafts inService := rfl
  rw [assemble, owned_drafts, functions, duplicate] at failed
  exact ⟨index, (Except.error.inj failed).symm⟩

end Layout

section Sets

variable {set : DescriptorSet} {nsd : Nsd} {members : List Supplied} {inService : Bool}
  {layout : Layout} (described : describedService set = .ok (nsd, inService))
  (supplied : supplied? set nsd.constituents = some members)
  (describes : layout.Describes nsd members) {freshId : Nat → String} {error : TranslationError}
  (failed : assemble (layout.surroundings nsd inService freshId) (layout.drafts inService) =
    .error error)
include described supplied describes failed

/-- The descriptors of a set fail to be assembled only if the service repeats a member index. -/
private theorem repeats_of_assemble_error :
    ∃ index, error = .duplicateIndex index ∧ ¬ (nsd.constituents.map (·.index)).Nodup := by
  have supplies := supplies_of_supplied? supplied
  have indices : layout.members.map (·.member.index) = nsd.constituents.map (·.index) := by
    rw [← supplies.constituents, ← describes.members]
    simp
  cases inService with
  | true =>
    have repeated : ¬ (nsd.constituents.map (·.index)).Nodup := fun distinct => by
      have assembled := (assemble_inService describes supplies.constituents supplies.named freshId
        _).mpr ⟨distinct, rfl⟩
      rw [failed] at assembled
      cases assembled
    obtain ⟨index, rfl⟩ := assemble_error (fun given granted => repeated (by
      rw [← indices]
      exact ((memberIndices_inService layout given).mp granted).1)) failed
    exact ⟨index, rfl, repeated⟩
  | false =>
    obtain ⟨first, vnfds, rfl⟩ : ∃ first vnfds, nsd = looseService first vnfds := by
      rw [describedService] at described
      split at described <;> cases described
      exact ⟨_, _, rfl⟩
    obtain ⟨artifacts, assembled⟩ := assemble_loose describes rfl freshId
    have crowded : ¬ members.length ≤ UInt32.size := fun room => by
      have assembled := (assembled _).mpr ⟨room, rfl⟩
      rw [failed] at assembled
      cases assembled
    have count : layout.members.length = members.length := by simp [← describes.members]
    obtain ⟨index, rfl⟩ := assemble_error (fun given granted => crowded (by
      rw [← count]
      exact ((memberIndices_loose layout given).mp granted).1)) failed
    refine ⟨index, rfl, fun distinct => crowded ?_⟩
    have room := length_le_of_nodup distinct
    rwa [← supplies.constituents, List.map_map, List.length_map] at room

end Sets

/-- The template that descriptors are written as is refused only if the service repeats a member
index, or if a size of one of its functions is too large; then the error names the size. -/
theorem translate_templateOf_error {freshId : Nat → String} {strict : Bool} {set : DescriptorSet}
    {template : Template} {error : TranslationError} (written : templateOf set = .ok template)
    (json : set.ConfigurationsAreJson)
    (refused : translate freshId strict template = .error error) :
    (∃ index nsd inService, error = .duplicateIndex index ∧
      describedService set = .ok (nsd, inService) ∧
        ¬ (nsd.constituents.map (·.index)).Nodup) ∨
    ∃ vnfd ∈ set.vnfds, ∃ vdu ∈ vnfd.vdus, ∃ node, Oversized node vdu error := by
  obtain ⟨nsd, inService, members, layout, described, supplied, -, describes, rfl⟩ :=
    exists_layout_of_templateOf written
  have inSet : ∀ m ∈ layout.members, m.vnfd ∈ set.vnfds := fun m inLayout =>
    mem_vnfds_of_supplied? supplied (m.member, m.vnfd)
      (describes.members ▸ List.mem_map_of_mem inLayout)
  rw [translate, Layout.workOf_template describes.distinct, ok_bind] at refused
  rcases bind_eq_error.mp refused with failed | ⟨d, ran, failed⟩
  · have readable : ∀ m ∈ layout.members, m.vnfd.ConfigurationReads := fun m inLayout value given =>
      ⟨value, (json m.vnfd (inSet m inLayout) value given).toOpaque_eq⟩
    obtain ⟨m, inLayout, vdu, inVdus, node, oversized⟩ :=
      runWork_items_error describes readable failed
    exact .inr ⟨m.vnfd, inSet m inLayout, vdu, inVdus, node, oversized⟩
  · obtain ⟨-, rfl⟩ := (Layout.runWork_items describes inService freshId d).mp ran
    obtain ⟨index, rfl, repeated⟩ := repeats_of_assemble_error described supplied describes failed
    exact .inl ⟨index, nsd, inService, rfl, described, repeated⟩

/-- The only service of the set. -/
def hugeNsd : Nsd := { id := "huge_nsd", constituents := [{ index := 1, vnfd := "huge_vnfd" }] }

/-- The template of a function with too much memory is refused for this memory. -/
theorem hugeSet_template_refused :
    ∃ template error, templateOf hugeSet = .ok template ∧
      translate (fun _ => "") true template = .error error ∧
        ∃ vdu ∈ hugeVnfd.vdus, ∃ node, Oversized node vdu error := by
  have json : hugeSet.ConfigurationsAreJson := by
    intro vnfd member value given
    obtain rfl : vnfd = hugeVnfd := List.mem_singleton.mp member
    cases given
  have described : describedService hugeSet = .ok (hugeNsd, true) := rfl
  have supplied : supplied? hugeSet hugeNsd.constituents =
      some [({ index := 1, vnfd := "huge_vnfd" }, hugeVnfd)] := rfl
  obtain ⟨layout, laid, describes⟩ := layoutOf_of_supplied supplied
  have written : templateOf hugeSet = .ok (layout.template hugeNsd true) := by
    simp [templateOf, described, laid]
  cases translated : translate (fun _ => "") true (layout.template hugeNsd true) with
  | ok service =>
    have translatable := ((translate_template describes ..).mp translated).1
    have sizes := ((translatable_iff describes).mp translatable).1
    have fits := (sizes _ (List.mem_cons_self ..) _ (List.mem_cons_self ..) _ rfl).memory _ rfl
    exact absurd fits (by decide)
  | error error =>
    rcases translate_templateOf_error written json translated with
      ⟨index, nsd, inService, -, own, repeated⟩ | ⟨vnfd, inSet, oversized⟩
    · obtain ⟨rfl, -⟩ := Prod.mk.inj (Except.ok.inj (described.symm.trans own))
      exact absurd (by decide) repeated
    · obtain rfl : vnfd = hugeVnfd := List.mem_singleton.mp inSet
      exact ⟨_, error, written, translated, oversized⟩

end NfvCatalog.Translation
