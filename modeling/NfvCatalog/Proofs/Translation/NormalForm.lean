import NfvCatalog.Proofs.Translation.ServicesAgain

/-! # Sets that are in normal form

A set that has come back once comes back as it is exactly if it is settled: the names of its files
stay, connection points and hops are in order, references are to connection points with one
interface, and no member index is given twice.
-/

namespace NfvCatalog

/-- No service of a set gives an index to two of its constituents. -/
def DescriptorSet.IndicesDistinct (set : DescriptorSet) : Prop :=
  ∀ nsd ∈ set.nsds, (nsd.constituents.map (·.index)).Nodup

/-- What a template keeps of a set is all of it. -/
structure DescriptorSet.Settled (set : DescriptorSet) : Prop where
  files : ∀ vnfd ∈ set.vnfds, vnfd.FilesStay
  points : ∀ vnfd ∈ set.vnfds, vnfd.PointsInOrder
  refs : ∀ nsd ∈ set.nsds, ∀ vld ∈ nsd.vlds, ∀ ref ∈ vld.pointRefs, set.interfaceCount ref = 1
  hops : ∀ nsd ∈ set.nsds, ∀ graph ∈ nsd.graphs, ∀ path ∈ graph.paths, path.HopsInOrder
  indices : set.IndicesDistinct

end NfvCatalog

namespace NfvCatalog.Translation

open Tosca

/-! ## Constituents of a set that came back -/

/-- Constituents are supplied if each finds a descriptor. -/
private theorem supplied?_map_fst_of_found {set : DescriptorSet} {members : List Supplied}
    {f : Vnfd → Vnfd} (found : ∀ m ∈ members, set.vnfd? m.1.vnfd = some (f m.2)) :
    supplied? set (members.map Prod.fst) = some (members.map fun m => (m.1, f m.2)) := by
  induction members with
  | nil => rfl
  | cons m rest ih =>
    obtain ⟨own, others⟩ := List.forall_mem_cons.mp found
    rw [List.map_cons, supplied?, own, ih others]
    rfl

section Back

variable {nsd : Nsd} {members : List Supplied} (supplies : Supplies nsd members)

section
include supplies

/-- A constituent finds the descriptor that came back for it. -/
theorem vnfd?_restored {m : Supplied} (member : m ∈ members) :
    (restored nsd members).vnfd? m.1.vnfd = some (restoredVnfd m.2) := by
  have found := DescriptorSet.find?_appendNew Vnfd.id []
    (members.map fun m => restoredVnfd m.2) m.1.vnfd
  rw [List.nil_append, List.find?_map] at found
  refine found.trans ?_
  cases first : members.find?
      ((fun vnfd : Vnfd => decide (vnfd.id = m.1.vnfd)) ∘ fun m => restoredVnfd m.2) with
  | none =>
    have absent := List.find?_eq_none.mp first m member
    exact absurd (decide_eq_true (supplies.named m member)) absent
  | some other =>
    have sameId := List.find?_some first
    simp only [Function.comp, decide_eq_true_eq] at sameId
    have sameId : other.2.id = m.1.vnfd := sameId
    -- The descriptor found first may be another constituent's, but then it is the same one.
    have same := supplies.alike other (List.mem_of_find?_eq_some first) m member
      (sameId.trans (supplies.named m member).symm)
    exact congrArg (fun vnfd => some (restoredVnfd vnfd)) same

theorem supplied?_restored :
    supplied? (restored nsd members) (restoredNsd nsd members).constituents =
      some (restoredMembers members) := by
  have constituents : (restoredNsd nsd members).constituents = members.map Prod.fst :=
    supplies.constituents.symm
  rw [constituents]
  exact supplied?_map_fst_of_found fun m member => vnfd?_restored supplies member

end

/-- What has come back can come back again. -/
theorem restorable_again (restorable : Restorable nsd members)
    (json : ∀ m ∈ members, m.2.ConfigurationIsJson) :
    Restorable (restoredNsd nsd members) (restoredMembers members) where
  sizes := List.forall_mem_map.mpr fun m member => sizesFit_restored (restorable.sizes m member)
  configurations := List.forall_mem_map.mpr fun m member value given =>
    ⟨value, (configurationIsJson_restored (json m member) value given).toOpaque_eq⟩
  free :=
    { configurations := List.forall_mem_map.mpr fun m member value given => by
        rw [configuration_restored (json m member)] at given
        exact restorable.free.configurations m member value given
      actions := List.forall_mem_map.mpr fun group member => by
        have kept : (restoredScaling members group).LooksLikeInput ↔ group.LooksLikeInput := by
          simp [ScalingGroup.LooksLikeInput, restoredScaling, latest_latest]
        exact mt kept.mp (restorable.free.actions group member)
      parameters := fun primitive member => by
        obtain ⟨source, inService, rfl⟩ := List.mem_map.mp (List.mem_mergeSort.mp member)
        have kept : (restoredPrimitive source).LooksLikeInput ↔ source.LooksLikeInput := by
          simp [ConfigPrimitive.LooksLikeInput, restoredPrimitive, latest_latest]
        exact mt kept.mp (restorable.free.parameters source inService) }

/-- The functions of a set that came back. -/
theorem restoredVnfds_again (members : List Supplied) :
    restoredVnfds (restoredMembers members) = (restoredVnfds members).map restoredVnfd := by
  have again : (restoredMembers members).map (fun m => restoredVnfd m.2) =
      (members.map fun m => restoredVnfd m.2).map restoredVnfd := by
    rw [restoredMembers, List.map_map, List.map_map]
    rfl
  rw [restoredVnfds, again]
  exact @DescriptorSet.appendNew_map _ _ Vnfd.id restoredVnfd Vnfd.id (fun _ => rfl) [] _

/-- A set that came back comes back again exactly if no member index is given twice. -/
theorem roundTrip_restored (supplies : Supplies nsd members)
    (restorable : Restorable nsd members) (json : ∀ m ∈ members, m.2.ConfigurationIsJson)
    (freshId : Nat → String) (out : DescriptorSet) :
    roundTrip freshId (restored nsd members) = .ok out ↔
      (nsd.constituents.map (·.index)).Nodup ∧
        out = restored (restoredNsd nsd members) (restoredMembers members) := by
  have supplied := supplied?_restored supplies
  have again := restorable_again restorable json
  refine (roundTrip_service ..).trans ⟨?_, ?_⟩
  · rintro ⟨others, same, -, distinct, rfl⟩
    obtain rfl := Option.some.inj (supplied.symm.trans same)
    exact ⟨distinct, rfl⟩
  · rintro ⟨distinct, rfl⟩
    exact ⟨_, supplied, again, distinct, rfl⟩

/-- The interfaces on the connection point of a constituent, as a set that came back has them. -/
private theorem interfaceCount_restoredSet (supplies : Supplies nsd members) {m : Supplied}
    (member : m ∈ members) {ref : PointRef} (named : ref.vnfd = m.2.id) :
    (restored nsd members).interfaceCount ref = m.2.interfaceCount ref.point := by
  rw [DescriptorSet.interfaceCount, named, supplies.named m member,
    vnfd?_restored supplies member, Option.map_some, Option.getD_some, interfaceCount_restored]

/-- The links of a set that came back come back as they are exactly if each reference is to a
connection point with one interface. -/
private theorem refs_eq_iff (supplies : Supplies nsd members)
    (distinct : (nsd.constituents.map (·.index)).Nodup)
    (inOrder : ∀ m ∈ members, (restoredVnfd m.2).PointsInOrder) (vld : Vld) :
    restoredRefs (restoredMembers members) (restoredVld members vld) = restoredRefs members vld ↔
      ∀ ref ∈ (restoredVld members vld).pointRefs,
        (restored nsd members).interfaceCount ref = 1 := by
  have apart := supplies.nodup_indices distinct
  refine (restoredRefs_eq_iff apart inOrder vld).trans (forall₂_congr fun ref back => ?_)
  obtain ⟨owner, inMembers, index, named, -⟩ := mem_restoredRefs.mp back
  rw [interfaceCount_restoredSet supplies inMembers named]
  constructor
  · exact fun single => single owner inMembers index
  · intro single m member sameIndex
    have same := List.inj_on_of_nodup_map apart member inMembers (sameIndex.symm.trans index)
    rw [same, single]

/-- A set that came back comes back as it is exactly if it is settled. -/
theorem restored_eq_iff (supplies : Supplies nsd members)
    (json : ∀ m ∈ members, m.2.ConfigurationIsJson)
    (distinct : (nsd.constituents.map (·.index)).Nodup) :
    restored (restoredNsd nsd members) (restoredMembers members) = restored nsd members ↔
      (restored nsd members).Settled := by
  have functions : restoredVnfds (restoredMembers members) = restoredVnfds members ↔
      ∀ vnfd ∈ restoredVnfds members, vnfd.FilesStay ∧ vnfd.PointsInOrder := by
    rw [restoredVnfds_again, listMap_eq_self]
    refine forall₂_congr fun vnfd member => ?_
    obtain ⟨m, inMembers, rfl⟩ := exists_of_mem_restoredVnfds member
    exact restoredVnfd_eq_iff m.2 (json m inMembers)
  have service := restoredNsd_eq_iff nsd members
  have back : ∀ m ∈ members, restoredVnfd m.2 ∈ restoredVnfds members := fun m member =>
    List.mem_of_find?_eq_some (vnfd?_restored supplies member)
  constructor
  · intro same
    obtain ⟨nsds, vnfds⟩ := DescriptorSet.mk.inj same
    have functionsStay := functions.mp vnfds
    obtain ⟨linksStay, inOrder⟩ := service.mp (List.cons.inj nsds).1
    have links := refs_eq_iff supplies distinct fun m member => (functionsStay _ (back m member)).2
    exact
      { files := fun vnfd member => (functionsStay vnfd member).1
        points := fun vnfd member => (functionsStay vnfd member).2
        refs := List.forall_mem_singleton.mpr (List.forall_mem_map.mpr fun vld member =>
          (links vld).mp (linksStay vld member))
        hops := List.forall_mem_singleton.mpr inOrder
        indices := List.forall_mem_singleton.mpr distinct }
  · intro settled
    have links := refs_eq_iff supplies distinct fun m member => settled.points _ (back m member)
    have refs := List.forall_mem_map.mp (List.forall_mem_singleton.mp settled.refs)
    have nsds := service.mpr ⟨fun vld member => (links vld).mpr (refs vld member),
      List.forall_mem_singleton.mp settled.hops⟩
    have vnfds := functions.mpr fun vnfd member =>
      ⟨settled.files vnfd member, settled.points vnfd member⟩
    rw [restored, nsds, vnfds]
    rfl

end Back

/-! ## Sets -/

/-- Whatever set comes back, it does so for a service with descriptors for its constituents, which
have distinct indices unless there are too many functions to number. -/
theorem exists_restored_of_roundTrip {freshId : Nat → String} {set out : DescriptorSet}
    (translated : roundTrip freshId set = .ok out) :
    ∃ nsd members, Supplies nsd members ∧ Restorable nsd members ∧
      (∀ m ∈ members, m.2 ∈ set.vnfds) ∧ out = restored nsd members ∧
        (set.vnfds.length < UInt32.size → (nsd.constituents.map (·.index)).Nodup) := by
  obtain ⟨nsds, vnfds⟩ := set
  match nsds, vnfds with
  | [nsd], vnfds =>
    obtain ⟨members, supplied, restorable, distinct, rfl⟩ :=
      (roundTrip_service ..).mp translated
    exact ⟨nsd, members, supplies_of_supplied? supplied, restorable,
      mem_vnfds_of_supplied? supplied, rfl, fun _ => distinct⟩
  | [], first :: rest =>
    obtain ⟨members, supplied, restorable, room, rfl⟩ := (roundTrip_functions ..).mp translated
    have supplies := supplies_of_supplied? supplied
    refine ⟨_, countedMembers members, supplies_countedMembers supplies,
      restorable_countedMembers restorable, fun m member => ?_, rfl, fun _ => ?_⟩
    · obtain ⟨source, inSource, same, -⟩ := exists_of_mem_countedMembers member
      exact same ▸ mem_vnfds_of_supplied? supplied source inSource
    · rw [countedService, List.map_map]
      exact nodup_countedIndices room
  | [], [] => cases translated
  | _ :: _ :: _, _ => cases translated

/-- A set that came back comes back again exactly if its indices are distinct, as they are unless
there are too many functions to number. It comes back as it is exactly if it is settled. -/
theorem roundTrip_settles {freshId again : Nat → String} {set out : DescriptorSet}
    (json : set.ConfigurationsAreJson) (translated : roundTrip freshId set = .ok out) :
    (set.vnfds.length < UInt32.size → out.IndicesDistinct) ∧
      ((∃ other, roundTrip again out = .ok other) ↔ out.IndicesDistinct) ∧
        (roundTrip again out = .ok out ↔ out.Settled) := by
  obtain ⟨nsd, members, supplies, restorable, inSet, rfl, numbered⟩ :=
    exists_restored_of_roundTrip translated
  have json : ∀ m ∈ members, m.2.ConfigurationIsJson := fun m member => json m.2 (inSet m member)
  have back := roundTrip_restored supplies restorable json again
  have indices : (restored nsd members).IndicesDistinct ↔
      (nsd.constituents.map (·.index)).Nodup := List.forall_mem_singleton
  refine ⟨fun room => indices.mpr (numbered room), ?_, ?_⟩
  · rw [indices]
    constructor
    · rintro ⟨other, translated⟩
      exact ((back other).mp translated).1
    · exact fun distinct => ⟨_, (back _).mpr ⟨distinct, rfl⟩⟩
  · rw [back]
    constructor
    · rintro ⟨distinct, same⟩
      exact (restored_eq_iff supplies json distinct).mp same.symm
    · intro settled
      have distinct := indices.mp settled.indices
      exact ⟨distinct, ((restored_eq_iff supplies json distinct).mpr settled).symm⟩

/-- The pair settles. -/
theorem pongPair_settles :
    ∃ out, pongPair.ConfigurationsAreJson ∧ roundTrip (fun _ => "") pongPair = .ok out ∧
      roundTrip (fun _ => "") out = .ok out ∧ out.Settled := by
  have json : pongPair.ConfigurationsAreJson :=
    List.forall_mem_singleton.mpr fun value given => by simp [pongVnfd] at given
  have membersJson : ∀ m ∈ pongMembers, m.2.ConfigurationIsJson := fun m member =>
    json m.2 (mem_vnfds_of_supplied? supplied?_pongPair m member)
  have translated := roundTrip_pongPair fun _ => ""
  have same : restored (restoredNsd pongNsd pongMembers) (restoredMembers pongMembers) =
      restored pongNsd pongMembers := by decide +kernel
  have again : roundTrip (fun _ => "") (restored pongNsd pongMembers) =
      .ok (restored pongNsd pongMembers) :=
    (roundTrip_restored (supplies_of_supplied? supplied?_pongPair) pongMembers_restorable
      membersJson _ _).mpr ⟨by decide, same.symm⟩
  obtain ⟨-, -, settles⟩ := roundTrip_settles json translated
  exact ⟨_, json, translated, again, settles.mp again⟩

end NfvCatalog.Translation
