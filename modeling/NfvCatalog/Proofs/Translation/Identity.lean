import Mathlib.Data.List.Forall2
import NfvCatalog.Proofs.Descriptor.Merged
import NfvCatalog.Proofs.Translation.Restored
import NfvCatalog.Proofs.Translation.RoundTrip

/-! # What the parts of descriptors are known by

Services, functions, machines, connection points and the references to them, before and after.
-/

/-! ## What identifies services, functions and machines

A service comes back with its head and its constituents, and with one descriptor for each function
that is referred to. A function comes back with its head and all of its machines, in order.
-/

namespace NfvCatalog

/-- A machine is that of a source. A flavor in which nothing is set counts as none. -/
structure Vdu.KeptFrom (vdu source : Vdu) : Prop where
  id : vdu.id = source.id
  name : vdu.name = source.name
  description : vdu.description = source.description
  count : vdu.count = source.count
  flavor : vdu.flavor = source.flavor.filter (· ≠ { })

/-- A descriptor has the head and the machines of a source. -/
structure Vnfd.KeptFrom (vnfd source : Vnfd) : Prop where
  id : vnfd.id = source.id
  name : vnfd.name = source.name
  shortName : vnfd.shortName = source.shortName
  vendor : vnfd.vendor = source.vendor
  version : vnfd.version = source.version
  description : vnfd.description = source.description
  vdus : List.Forall₂ Vdu.KeptFrom vnfd.vdus source.vdus

/-- A service has the head and the constituents of a source. -/
structure Nsd.KeptFrom (nsd source : Nsd) : Prop where
  id : nsd.id = source.id
  name : nsd.name = source.name
  vendor : nsd.vendor = source.vendor
  version : nsd.version = source.version
  description : nsd.description = source.description
  constituents : nsd.constituents = source.constituents

end NfvCatalog

namespace NfvCatalog.Translation

/-- Giving machines their interfaces leaves the rest of them as it is. -/
theorem withInterfaces_keptFrom (named : List (String × ExternalInterface)) (vdus : List Vdu) :
    List.Forall₂ Vdu.KeptFrom (withInterfaces named (vdus.map restoredVdu)) vdus := by
  induction vdus generalizing named with
  | nil => exact .nil
  | cons vdu rest ih =>
    rw [List.map_cons, withInterfaces]
    exact .cons ⟨rfl, rfl, rfl, rfl, rfl⟩ (ih _)

theorem restoredVnfd_keptFrom (vnfd : Vnfd) : (restoredVnfd vnfd).KeptFrom vnfd :=
  ⟨rfl, rfl, rfl, rfl, rfl, rfl, withInterfaces_keptFrom _ vnfd.vdus⟩

theorem restoredNsd_keptFrom (nsd : Nsd) (members : List Supplied) :
    (restoredNsd nsd members).KeptFrom nsd :=
  ⟨rfl, rfl, rfl, rfl, rfl, rfl⟩

/-- The functions that come back are those that constituents refer to, in order of first
reference. -/
theorem map_id_restoredVnfds {nsd : Nsd} {members : List Supplied}
    (supplies : Supplies nsd members) :
    (restoredVnfds members).map (·.id) = (nsd.constituents.map (·.vnfd)).eraseDups := by
  have ids : (members.map fun m => restoredVnfd m.2).map (·.id) =
      nsd.constituents.map (·.vnfd) := by
    rw [← supplies.constituents, List.map_map, List.map_map]
    exact List.map_congr_left supplies.named
  rw [restoredVnfds, DescriptorSet.map_id_appendNew, ids]

/-- Each function that comes back is that of a constituent. -/
theorem exists_of_mem_restoredVnfds {members : List Supplied} {vnfd : Vnfd}
    (member : vnfd ∈ restoredVnfds members) : ∃ m ∈ members, restoredVnfd m.2 = vnfd := by
  simpa using DescriptorSet.mem_of_mem_appendNew Vnfd.id member

/-- A service that comes back keeps its head and its constituents, and its functions keep their
heads and machines. -/
theorem roundTrip_keeps_identity {freshId : Nat → String} {set out : DescriptorSet} {nsd : Nsd}
    (single : set.nsds = [nsd]) (translated : roundTrip freshId set = .ok out) :
    (∃ service, out.nsds = [service] ∧ service.KeptFrom nsd) ∧
      out.vnfds.map (·.id) = (nsd.constituents.map (·.vnfd)).eraseDups ∧
      ∀ vnfd ∈ out.vnfds, ∃ source, set.vnfd? vnfd.id = some source ∧ vnfd.KeptFrom source := by
  obtain ⟨_, vnfds⟩ := set
  obtain rfl : _ = [nsd] := single
  obtain ⟨members, supplied, -, -, rfl⟩ := (roundTrip_service ..).mp translated
  have supplies := supplies_of_supplied? supplied
  refine ⟨⟨_, rfl, restoredNsd_keptFrom nsd members⟩, map_id_restoredVnfds supplies, ?_⟩
  intro vnfd member
  obtain ⟨m, inMembers, rfl⟩ := exists_of_mem_restoredVnfds member
  have found := vnfd?_of_supplied? supplied m inMembers
  rw [← supplies.named m inMembers] at found
  exact ⟨m.2, found, restoredVnfd_keptFrom m.2⟩

/-- The function that both constituents of the pair refer to comes back once. -/
theorem pongPair_keeps_identity :
    ∃ out, roundTrip (fun _ => "") pongPair = .ok out ∧
      (∃ service, out.nsds = [service] ∧ service.KeptFrom pongNsd) ∧
      out.vnfds.map (·.id) = ["pong_vnfd"] ∧
      ∀ vnfd ∈ out.vnfds, ∃ source, pongPair.vnfd? vnfd.id = some source ∧
        vnfd.KeptFrom source := by
  have translated := roundTrip_pongPair fun _ => ""
  obtain ⟨service, ids, functions⟩ := roundTrip_keeps_identity rfl translated
  exact ⟨_, translated, service, ids.trans (by decide), functions⟩

end NfvCatalog.Translation

/-! ## Connection points with interfaces

A connection point comes back once for every interface on it, and so does every reference to it.
-/

namespace NfvCatalog

/-- How many interfaces of a function are on a connection point. -/
def Vnfd.interfaceCount (vnfd : Vnfd) (point : String) : Nat :=
  vnfd.interfaces.countP (·.2.pointRef = point)

theorem Vnfd.interfaceCount_pos {vnfd : Vnfd} {point : String} :
    0 < vnfd.interfaceCount point ↔ ∃ entry ∈ vnfd.interfaces, entry.2.pointRef = point := by
  simp [Vnfd.interfaceCount, List.countP_pos_iff]

/-- How many interfaces there are on the connection point that a reference names. -/
def DescriptorSet.interfaceCount (set : DescriptorSet) (ref : PointRef) : Nat :=
  ((set.vnfd? ref.vnfd).map (·.interfaceCount ref.point)).getD 0

end NfvCatalog

namespace NfvCatalog.Translation

/-! ### Connection points -/

/-- A connection point that comes back has an interface and the type that its name stands for. -/
theorem mem_restoredPoints {vnfd : Vnfd} {point : ConnectionPoint} :
    point ∈ restoredPoints vnfd ↔
      pointTypeOf vnfd point.name = point.pointType ∧ 0 < vnfd.interfaceCount point.name := by
  rw [Vnfd.interfaceCount_pos]
  constructor
  · intro member
    obtain ⟨entry, inInterfaces, rfl⟩ := List.mem_map.mp member
    exact ⟨rfl, entry, inInterfaces, rfl⟩
  · rintro ⟨typed, entry, inInterfaces, named⟩
    refine List.mem_map.mpr ⟨entry, inInterfaces, ?_⟩
    change ConnectionPoint.mk entry.2.pointRef (pointTypeOf vnfd entry.2.pointRef) = point
    rw [named, typed]

/-! ### References -/

/-- References to one connection point of a member are the same if they name the same function. -/
theorem refCount_eq_count {vld : Vld} {ref : PointRef}
    (agree : ∀ other ∈ vld.pointRefs, other.member = ref.member → other.vnfd = ref.vnfd) :
    refCount vld ref.member ref.point = vld.pointRefs.count ref := by
  rw [refCount, ← List.countP_eq_length_filter, List.count]
  refine List.countP_congr fun other member => ?_
  simp only [decide_eq_true_eq, beq_iff_eq]
  constructor
  · rintro ⟨sameMember, samePoint⟩
    calc other = ⟨other.member, other.vnfd, other.point⟩ := rfl
      _ = ref := by rw [sameMember, samePoint, agree other member sameMember]
  · rintro rfl
    exact ⟨rfl, rfl⟩

/-- The references of one constituent. -/
private def memberRefs (vld : Vld) (m : Supplied) : List PointRef :=
  m.2.interfaces.flatMap fun entry =>
    List.replicate (refCount vld m.1.index entry.2.pointRef)
      { member := m.1.index, vnfd := m.2.id, point := entry.2.pointRef }

private theorem restoredRefs_eq (members : List Supplied) (vld : Vld) :
    restoredRefs members vld = members.flatMap (memberRefs vld) := rfl

private theorem mem_memberRefs {vld : Vld} {m : Supplied} {ref : PointRef} :
    ref ∈ memberRefs vld m ↔
      ref.member = m.1.index ∧ ref.vnfd = m.2.id ∧ 0 < m.2.interfaceCount ref.point ∧
        0 < refCount vld ref.member ref.point := by
  simp only [memberRefs, List.mem_flatMap, List.mem_replicate, Vnfd.interfaceCount_pos]
  constructor
  · rintro ⟨entry, inInterfaces, asked, rfl⟩
    exact ⟨rfl, rfl, ⟨entry, inInterfaces, rfl⟩, Nat.pos_of_ne_zero asked⟩
  · obtain ⟨member, vnfd, point⟩ := ref
    rintro ⟨rfl, rfl, ⟨entry, inInterfaces, rfl⟩, asked⟩
    exact ⟨entry, inInterfaces, Nat.ne_of_gt asked, rfl⟩

/-- What comes back refers to a constituent with an interface on the connection point. -/
theorem mem_restoredRefs {members : List Supplied} {vld : Vld} {ref : PointRef} :
    ref ∈ restoredRefs members vld ↔
      ∃ m ∈ members, ref.member = m.1.index ∧ ref.vnfd = m.2.id ∧
        0 < m.2.interfaceCount ref.point ∧ 0 < refCount vld ref.member ref.point := by
  simp only [restoredRefs_eq, List.mem_flatMap, mem_memberRefs]

private theorem count_memberRefs {vld : Vld} {m : Supplied} {ref : PointRef}
    (index : ref.member = m.1.index) (vnfd : ref.vnfd = m.2.id) :
    (memberRefs vld m).count ref =
      m.2.interfaceCount ref.point * refCount vld ref.member ref.point := by
  obtain ⟨member, id, point⟩ := ref
  obtain rfl : member = m.1.index := index
  obtain rfl : id = m.2.id := vnfd
  rw [memberRefs, Vnfd.interfaceCount]
  induction m.2.interfaces with
  | nil => simp
  | cons entry rest ih =>
    rw [List.flatMap_cons, List.count_append, ih, List.count_replicate, List.countP_cons]
    by_cases same : entry.2.pointRef = point
    · simp only [same, decide_true, if_true, BEq.rfl]
      rw [Nat.add_one_mul, Nat.add_comm]
    · have other : (⟨m.1.index, m.2.id, entry.2.pointRef⟩ : PointRef) ≠
          ⟨m.1.index, m.2.id, point⟩ := fun equal => same (PointRef.mk.inj equal).2.2
      simp [same, other]

/-- How often a reference to a constituent comes back. -/
theorem count_restoredRefs {members : List Supplied}
    (distinct : (members.map (·.1.index)).Nodup) (vld : Vld) {m : Supplied} (member : m ∈ members)
    {ref : PointRef} (index : ref.member = m.1.index) (vnfd : ref.vnfd = m.2.id) :
    (restoredRefs members vld).count ref =
      m.2.interfaceCount ref.point * refCount vld ref.member ref.point := by
  rw [restoredRefs_eq]
  induction members with
  | nil => cases member
  | cons first rest ih =>
    obtain ⟨apart, restDistinct⟩ := List.nodup_cons.mp distinct
    rw [List.flatMap_cons, List.count_append]
    rcases List.mem_cons.mp member with rfl | inRest
    · have others : ref ∉ rest.flatMap (memberRefs vld) := by
        intro found
        obtain ⟨other, inRest, found⟩ := List.mem_flatMap.mp found
        obtain ⟨otherIndex, -⟩ := mem_memberRefs.mp found
        exact apart (List.mem_map.mpr ⟨other, inRest, otherIndex.symm.trans index⟩)
      rw [count_memberRefs index vnfd, List.count_eq_zero.mpr others, Nat.add_zero]
    · have here : ref ∉ memberRefs vld first := by
        intro found
        obtain ⟨firstIndex, -⟩ := mem_memberRefs.mp found
        exact apart (List.mem_map.mpr ⟨m, inRest, index.symm.trans firstIndex⟩)
      rw [ih restDistinct inRest, List.count_eq_zero.mpr here, Nat.zero_add]

end NfvCatalog.Translation
