import Mathlib.Data.List.Forall2
import NfvCatalog.Proofs.Descriptor.Valid
import NfvCatalog.Proofs.Translation.Identity

/-! # Connection points and links that come back

A connection point comes back if there is an interface on it; one that is on no interface is
dropped, and so are the references to it. A reference to a connection point with one interface comes
back as often as it was there.
-/

namespace NfvCatalog

/-- The connection points of a descriptor are those of a source that have an interface. -/
def Vnfd.KeepsPoints (vnfd source : Vnfd) : Prop :=
  ∀ point, point ∈ vnfd.points ↔ point ∈ source.points ∧ 0 < source.interfaceCount point.name

/-- A link has the references of a source, in any order, as far as they are to connection points
with at most one interface. -/
structure Vld.KeepsRefs (set : DescriptorSet) (vld source : Vld) : Prop where
  id : vld.id = source.id
  refs : (vld.pointRefs.filter (set.interfaceCount · ≤ 1)).Perm
    (source.pointRefs.filter (set.interfaceCount · = 1))

end NfvCatalog

namespace NfvCatalog.Translation

/-! ## Connection points -/

/-- The type of a declared connection point is its own if names do not repeat. -/
private theorem pointTypeOf_of_mem {vnfd : Vnfd} (distinct : (vnfd.points.map (·.name)).Nodup)
    {point : ConnectionPoint} (member : point ∈ vnfd.points) :
    pointTypeOf vnfd point.name = point.pointType := by
  rw [pointTypeOf, Vnfd.point?, find?_key (fun point : ConnectionPoint => point.name) distinct
    member]
  rfl

theorem restoredVnfd_keepsPoints {vnfd : Vnfd} (valid : Issue.hasErrors vnfd.validate = false) :
    (restoredVnfd vnfd).KeepsPoints vnfd := by
  have distinct := Vnfd.nodup_points_of_valid valid
  intro point
  refine mem_restoredPoints.trans (and_congr_left fun carried => ?_)
  obtain ⟨entry, inInterfaces, named⟩ := Vnfd.interfaceCount_pos.mp carried
  obtain ⟨inVdus, inVdu⟩ := Vnfd.mem_interfaces.mp inInterfaces
  have declared := Vnfd.declares_of_valid valid inVdus inVdu
  simp only [Vnfd.declares, List.any_eq_true, decide_eq_true_eq] at declared
  obtain ⟨declared, inPoints, sameName⟩ := declared
  have typed := pointTypeOf_of_mem distinct inPoints
  rw [sameName, named] at typed
  constructor
  · intro ownType
    have same : declared = point := by
      calc declared = ⟨declared.name, declared.pointType⟩ := rfl
        _ = ⟨point.name, point.pointType⟩ := by rw [sameName, named, ← typed, ownType]
    exact same ▸ inPoints
  · exact pointTypeOf_of_mem distinct

/-! ## Links -/

section Links

variable {set : DescriptorSet} {nsd : Nsd} {members : List Supplied}
  (supplied : supplied? set nsd.constituents = some members)
  (valid : Issue.hasErrors (nsd.validate set.vnfds) = false)
include supplied valid

private theorem exists_of_mem_pointRefs {vld : Vld} (inService : vld ∈ nsd.vlds) {ref : PointRef}
    (member : ref ∈ vld.pointRefs) :
    ∃ m ∈ members, ref.member = m.1.index ∧ ref.vnfd = m.2.id := by
  have supplies := supplies_of_supplied? supplied
  have found := Nsd.memberVnfd?_of_valid valid inService member
  obtain ⟨constituent, first, named⟩ := Option.map_eq_some_iff.mp found
  have index : constituent.index = ref.member := by simpa using List.find?_some first
  have inConstituents := List.mem_reverse.mp (List.mem_of_find?_eq_some first)
  rw [← supplies.constituents] at inConstituents
  obtain ⟨m, inMembers, rfl⟩ := List.mem_map.mp inConstituents
  exact ⟨m, inMembers, index.symm, named ▸ (supplies.named m inMembers).symm⟩

/-- The references of a link to the constituent of one of them name the same function. -/
private theorem agree_of_mem {vld : Vld} (inService : vld ∈ nsd.vlds) {m : Supplied}
    (inMembers : m ∈ members) :
    ∀ other ∈ vld.pointRefs, other.member = m.1.index → other.vnfd = m.2.id := by
  have supplies := supplies_of_supplied? supplied
  have distinct := supplies.nodup_indices (Nsd.nodup_indices_of_valid valid)
  intro other member index
  obtain ⟨m', inMembers', otherIndex, named⟩ :=
    exists_of_mem_pointRefs supplied valid inService member
  have same : m' = m :=
    List.inj_on_of_nodup_map distinct inMembers' inMembers (otherIndex.symm.trans index)
  rw [named, same]

theorem restoredVld_keepsRefs {vld : Vld} (inService : vld ∈ nsd.vlds) :
    (restoredVld members vld).KeepsRefs set vld := by
  have supplies := supplies_of_supplied? supplied
  have distinct := supplies.nodup_indices (Nsd.nodup_indices_of_valid valid)
  refine ⟨rfl, List.perm_iff_count.mpr fun ref => ?_⟩
  have refs : (restoredVld members vld).pointRefs = restoredRefs members vld := rfl
  rw [refs]
  by_cases asked : ∃ m ∈ members, ref.member = m.1.index ∧ ref.vnfd = m.2.id
  · obtain ⟨m, inMembers, index, named⟩ := asked
    have carried : set.interfaceCount ref = m.2.interfaceCount ref.point := by
      have found := vnfd?_of_supplied? supplied m inMembers
      rw [DescriptorSet.interfaceCount, named, supplies.named m inMembers, found]
      rfl
    have count := count_restoredRefs distinct vld inMembers index named
    have agree := agree_of_mem supplied valid inService inMembers
    rw [refCount_eq_count fun other member same =>
      (agree other member (same.trans index)).trans named.symm, ← carried] at count
    -- Both filters leave out what has several interfaces; the rest comes back zero times or once.
    rcases Nat.lt_or_ge 1 (set.interfaceCount ref) with several | atMostOne
    · have leftOut : ref ∉ (restoredRefs members vld).filter (set.interfaceCount · ≤ 1) :=
        fun kept => Nat.not_le.mpr several (by simpa using List.of_mem_filter kept)
      have alsoLeftOut : ref ∉ vld.pointRefs.filter (set.interfaceCount · = 1) :=
        fun kept => Nat.ne_of_gt several (by simpa using List.of_mem_filter kept)
      rw [List.count_eq_zero.mpr leftOut, List.count_eq_zero.mpr alsoLeftOut]
    · rw [List.count_filter (by simpa using atMostOne), count]
      rcases Nat.le_one_iff_eq_zero_or_eq_one.mp atMostOne with free | single
      · have leftOut : ref ∉ vld.pointRefs.filter (set.interfaceCount · = 1) :=
          fun kept => by simpa [free] using List.of_mem_filter kept
        rw [List.count_eq_zero.mpr leftOut, free, Nat.zero_mul]
      · rw [List.count_filter (by simpa using single), single, Nat.one_mul]
  · have restoredAbsent : ref ∉ restoredRefs members vld := fun member =>
      have ⟨m, inMembers, index, named, _⟩ := mem_restoredRefs.mp member
      asked ⟨m, inMembers, index, named⟩
    have absent : ref ∉ vld.pointRefs := fun member =>
      asked (exists_of_mem_pointRefs supplied valid inService member)
    rw [List.count_eq_zero.mpr fun kept => restoredAbsent (List.mem_of_mem_filter kept),
      List.count_eq_zero.mpr fun kept => absent (List.mem_of_mem_filter kept)]

end Links

/-! ## Services -/

/-- In a service without errors, connection points that have an interface come back, and references
to connection points with at most one interface come back if there is one. -/
theorem roundTrip_keeps_wiring {freshId : Nat → String} {set out : DescriptorSet} {nsd : Nsd}
    (single : set.nsds = [nsd]) (valid : Issue.hasErrors set.validate = false)
    (translated : roundTrip freshId set = .ok out) :
    (∀ vnfd ∈ out.vnfds, ∃ source, set.vnfd? vnfd.id = some source ∧ vnfd.KeepsPoints source) ∧
      ∃ service, out.nsds = [service] ∧
        List.Forall₂ (Vld.KeepsRefs set) service.vlds nsd.vlds := by
  obtain ⟨_, vnfds⟩ := set
  obtain rfl : _ = [nsd] := single
  obtain ⟨members, supplied, -, -, rfl⟩ := (roundTrip_service ..).mp translated
  have supplies := supplies_of_supplied? supplied
  simp only [DescriptorSet.validate, Issue.hasErrors_append, Issue.hasErrors_flatMap,
    List.forall_mem_singleton] at valid
  obtain ⟨functionsValid, serviceValid⟩ := valid
  refine ⟨fun vnfd member => ?_, restoredNsd nsd members, rfl, ?_⟩
  · obtain ⟨m, inMembers, rfl⟩ := exists_of_mem_restoredVnfds member
    have found := vnfd?_of_supplied? supplied m inMembers
    rw [← supplies.named m inMembers] at found
    have inSet : m.2 ∈ vnfds := List.mem_of_find?_eq_some found
    exact ⟨m.2, found, restoredVnfd_keepsPoints (functionsValid m.2 inSet)⟩
  · refine List.forall₂_map_left_iff.mpr (List.forall₂_same.mpr fun vld inService => ?_)
    exact restoredVld_keepsRefs supplied serviceValid inService

/-- The link of the pair comes back with both of its references. -/
theorem pongPair_keeps_wiring :
    ∃ out, Issue.hasErrors pongPair.validate = false ∧ roundTrip (fun _ => "") pongPair = .ok out ∧
      (∀ vnfd ∈ out.vnfds, ∃ source, pongPair.vnfd? vnfd.id = some source ∧
        vnfd.KeepsPoints source) ∧
      ∃ service, out.nsds = [service] ∧
        List.Forall₂ (Vld.KeepsRefs pongPair) service.vlds pongNsd.vlds := by
  have valid : Issue.hasErrors pongPair.validate = false := by decide
  have translated := roundTrip_pongPair fun _ => ""
  exact ⟨_, valid, translated, roundTrip_keeps_wiring rfl valid translated⟩

/-- A function with a connection point that is on no interface. -/
def spareVnfd : Vnfd :=
  { id := "spare_vnfd"
    points := [{ name := "spare/cp0" }]
    vdus := [{ id := "spare_vdu", image := some "spare.qcow2" }] }

/-- A service with a link to the connection point. -/
def spareNsd : Nsd :=
  { id := "spare_nsd"
    constituents := [{ index := 1, vnfd := "spare_vnfd" }]
    vlds := [{ id := "link", pointRefs := [⟨1, "spare_vnfd", "spare/cp0"⟩] }] }

/-- The service with its function. -/
def spareSet : DescriptorSet := { nsds := [spareNsd], vnfds := [spareVnfd] }

/-- A connection point on no interface is dropped, and so is the reference to it. -/
theorem spareSet_loses_wiring :
    Issue.hasErrors spareSet.validate = false ∧ ∃ out, roundTrip (fun _ => "") spareSet = .ok out ∧
      out.vnfds.map (·.points) ≠ [spareVnfd.points] ∧
      out.nsds.map (fun service => service.vlds.map (·.pointRefs)) ≠
        [spareNsd.vlds.map (·.pointRefs)] := by
  have restorable : Restorable spareNsd [({ index := 1, vnfd := "spare_vnfd" }, spareVnfd)] :=
    { sizes := by simp [spareVnfd, Vdu.SizesFit]
      configurations := by simp [spareVnfd, Vnfd.ConfigurationReads]
      free := ⟨by simp [spareVnfd], by simp [spareNsd], by simp [spareNsd]⟩ }
  exact ⟨by decide, _, (roundTrip_service ..).mpr ⟨_, rfl, restorable, by decide, rfl⟩,
    by decide, by decide⟩

end NfvCatalog.Translation
