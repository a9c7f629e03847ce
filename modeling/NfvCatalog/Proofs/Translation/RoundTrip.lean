import NfvCatalog.Proofs.Translation.Assembled
import NfvCatalog.Proofs.Translation.Inputs

/-! # From descriptors to a template and back

Writing descriptors as a template and translating the template gives back what `restored` says. It
succeeds exactly if every constituent is supplied, sizes fit, configurations have a JSON form,
nothing reads as a reference to an input, and no member index is given twice.
-/

namespace NfvCatalog.Translation

open Tosca

/-- Write a set of descriptors as a template and translate the template with default options. -/
def roundTrip (freshId : Nat → String) (set : DescriptorSet) :
    Except TranslationError DescriptorSet := do
  let template ← templateOf set
  let service ← serviceOf freshId { } template
  return service.descriptors

/-- What makes descriptors come back: sizes and configurations can be read, and nothing reads as a
reference to an input. -/
structure Restorable (nsd : Nsd) (members : List Supplied) : Prop where
  sizes : ∀ m ∈ members, ∀ vdu ∈ m.2.vdus, vdu.SizesFit
  configurations : ∀ m ∈ members, m.2.ConfigurationReads
  free : FreeOfInputs nsd members

/-! ## Constituents that are supplied -/

/-- Descriptors stand with the constituents of a service, one descriptor for each id. -/
structure Supplies (nsd : Nsd) (members : List Supplied) : Prop where
  constituents : members.map Prod.fst = nsd.constituents
  named : ∀ m ∈ members, m.2.id = m.1.vnfd
  alike : ∀ m ∈ members, ∀ other ∈ members, m.2.id = other.2.id → m.2 = other.2

private theorem supplied?_map_fst {set : DescriptorSet} {constituents : List ConstituentVnfd}
    {members : List Supplied} (supplied : supplied? set constituents = some members) :
    members.map Prod.fst = constituents := by
  induction constituents generalizing members with
  | nil => simpa [supplied?] using supplied.symm
  | cons member rest ih =>
    simp only [supplied?, Option.bind_eq_bind, Option.bind_eq_some_iff] at supplied
    obtain ⟨vnfd, -, others, restSupplied, same⟩ := supplied
    obtain rfl : (member, vnfd) :: others = members := by simpa using same
    rw [List.map_cons, ih restSupplied]

/-- Every constituent stands with the descriptor that its id finds. -/
theorem vnfd?_of_supplied? {set : DescriptorSet} {constituents : List ConstituentVnfd}
    {members : List Supplied} (supplied : supplied? set constituents = some members) :
    ∀ m ∈ members, set.vnfd? m.1.vnfd = some m.2 := by
  induction constituents generalizing members with
  | nil => simp [← show [] = members by simpa [supplied?] using supplied]
  | cons member rest ih =>
    simp only [supplied?, Option.bind_eq_bind, Option.bind_eq_some_iff] at supplied
    obtain ⟨vnfd, found, others, restSupplied, same⟩ := supplied
    obtain rfl : (member, vnfd) :: others = members := by simpa using same
    exact List.forall_mem_cons.mpr ⟨found, ih restSupplied⟩

theorem mem_vnfds_of_supplied? {set : DescriptorSet} {constituents : List ConstituentVnfd}
    {members : List Supplied} (supplied : supplied? set constituents = some members) :
    ∀ m ∈ members, m.2 ∈ set.vnfds := fun m member =>
  List.mem_of_find?_eq_some (vnfd?_of_supplied? supplied m member)

/-- The id of a descriptor is that under which it is found. -/
theorem id_of_vnfd? {set : DescriptorSet} {id : String} {vnfd : Vnfd}
    (found : set.vnfd? id = some vnfd) : vnfd.id = id := by
  simpa using List.find?_some found

theorem supplies_of_supplied? {set : DescriptorSet} {nsd : Nsd} {members : List Supplied}
    (supplied : supplied? set nsd.constituents = some members) : Supplies nsd members where
  constituents := supplied?_map_fst supplied
  named m member := id_of_vnfd? (vnfd?_of_supplied? supplied m member)
  alike m member other otherMember same := by
    have found := vnfd?_of_supplied? supplied m member
    have otherFound := vnfd?_of_supplied? supplied other otherMember
    rw [← id_of_vnfd? found, same, id_of_vnfd? otherFound, otherFound] at found
    exact (Option.some.inj found).symm

theorem Supplies.nodup_indices {nsd : Nsd} {members : List Supplied}
    (supplies : Supplies nsd members) (distinct : (nsd.constituents.map (·.index)).Nodup) :
    (members.map (·.1.index)).Nodup := by
  rwa [← supplies.constituents, List.map_map] at distinct

/-- A constituent is the one with its index. -/
theorem Supplies.member?_of_mem {nsd : Nsd} {members : List Supplied}
    (supplies : Supplies nsd members) (distinct : (nsd.constituents.map (·.index)).Nodup)
    {m : Supplied} (member : m ∈ members) : member? members m.1.index = some m :=
  find?_key (fun m : Supplied => m.1.index) (supplies.nodup_indices distinct) member

/-! ## Translating the template of a layout -/

section Template

variable {layout : Layout} {nsd : Nsd} {members : List Supplied}
  (describes : layout.Describes nsd members)
include describes

theorem translatable_iff :
    layout.Translatable ↔
      (∀ m ∈ members, ∀ vdu ∈ m.2.vdus, vdu.SizesFit) ∧
        ∀ m ∈ members, m.2.ConfigurationReads := by
  rw [← describes.members, List.forall_mem_map, List.forall_mem_map]
  constructor
  · rintro ⟨sizes, configurations⟩
    exact ⟨sizes, configurations⟩
  · rintro ⟨sizes, configurations⟩
    exact ⟨sizes, configurations⟩

/-- The template of a layout is translated, strictly or not, exactly if its functions can be and its
drafts can be assembled. -/
theorem translate_template (inService strict : Bool) (freshId : Nat → String) (service : Service) :
    translate freshId strict (layout.template nsd inService) = .ok service ↔
      layout.Translatable ∧
        assemble (layout.surroundings nsd inService freshId) (layout.drafts inService) =
          .ok service := by
  have run := Layout.runWork_items describes inService freshId
  rw [translate, Layout.workOf_template describes.distinct, ok_bind, bind_eq_ok]
  constructor
  · rintro ⟨d, ran, assembled⟩
    obtain ⟨translatable, rfl⟩ := (run d).mp ran
    exact ⟨translatable, assembled⟩
  · rintro ⟨translatable, assembled⟩
    exact ⟨_, (run _).mpr ⟨translatable, rfl⟩, assembled⟩

/-- The template of a layout is accepted exactly if its descriptors can come back. -/
theorem serviceOf_template (inService : Bool) (freshId : Nat → String) (service : Service) :
    serviceOf freshId { } (layout.template nsd inService) = .ok service ↔
      Restorable nsd members ∧
        assemble (layout.surroundings nsd inService freshId) (layout.drafts inService) =
          .ok service := by
  have translated := translate_template describes inService false freshId service
  rw [translatable_iff describes] at translated
  have free := Layout.template_free describes inService
  have inputs (resolved : Template) :=
    @resolveInputs_eq_ok (layout.template nsd inService) resolved rfl
  constructor
  · intro given
    cases resolving : (layout.template nsd inService).resolveInputs [] with
    | error error => simp [serviceOf, resolving] at given
    | ok resolved =>
      obtain ⟨unreferred, rfl⟩ := (inputs resolved).mp resolving
      simp only [serviceOf, resolving] at given
      obtain ⟨⟨sizes, configurations⟩, assembled⟩ := translated.mp given
      exact ⟨⟨sizes, configurations, free.mp unreferred⟩, assembled⟩
  · rintro ⟨⟨sizes, configurations, unreferred⟩, assembled⟩
    rw [serviceOf, (inputs _).mpr ⟨free.mpr unreferred, rfl⟩]
    exact translated.mpr ⟨⟨sizes, configurations⟩, assembled⟩

end Template

/-! ## Services and functions -/

section Sets

variable {set : DescriptorSet} {nsd : Nsd} {inService : Bool}
  (described : describedService set = .ok (nsd, inService)) (freshId : Nat → String)
include described

private theorem roundTrip_missing (missing : supplied? set nsd.constituents = none) :
    ∃ error, roundTrip freshId set = .error error := by
  obtain ⟨error, refused⟩ := layoutOf_of_missing missing
  exact ⟨error, by simp [roundTrip, templateOf, described, refused]⟩

private theorem roundTrip_supplied {members : List Supplied}
    (supplied : supplied? set nsd.constituents = some members) :
    ∃ layout, Layout.Describes layout nsd members ∧ ∀ out, roundTrip freshId set = .ok out ↔
      Restorable nsd members ∧ ∃ service,
        assemble (layout.surroundings nsd inService freshId) (layout.drafts inService) =
          .ok service ∧ service.descriptors = out := by
  obtain ⟨layout, laid, describes⟩ := layoutOf_of_supplied supplied
  refine ⟨layout, describes, fun out => ?_⟩
  have written : templateOf set = .ok (layout.template nsd inService) := by
    simp [templateOf, described, laid]
  have translated := serviceOf_template describes inService freshId
  rw [roundTrip, written, ok_bind, bind_eq_ok]
  constructor
  · rintro ⟨service, given, same⟩
    obtain ⟨restorable, assembled⟩ := (translated service).mp given
    exact ⟨restorable, service, assembled, Except.ok.inj same⟩
  · rintro ⟨restorable, service, assembled, rfl⟩
    exact ⟨service, (translated service).mpr ⟨restorable, assembled⟩, rfl⟩

end Sets

/-- A set of one service comes back exactly if its constituents are supplied, can come back and have
distinct member indices. -/
theorem roundTrip_service (freshId : Nat → String) (nsd : Nsd) (vnfds : List Vnfd)
    (out : DescriptorSet) :
    roundTrip freshId { nsds := [nsd], vnfds := vnfds } = .ok out ↔
      ∃ members, supplied? { nsds := [nsd], vnfds := vnfds } nsd.constituents = some members ∧
        Restorable nsd members ∧ (nsd.constituents.map (·.index)).Nodup ∧
          out = restored nsd members := by
  have described : describedService { nsds := [nsd], vnfds := vnfds } = .ok (nsd, true) := rfl
  cases supplied : supplied? { nsds := [nsd], vnfds := vnfds } nsd.constituents with
  | none =>
    obtain ⟨error, refused⟩ := roundTrip_missing described freshId supplied
    simp [refused]
  | some members =>
    obtain ⟨layout, describes, translated⟩ := roundTrip_supplied described freshId supplied
    have supplies := supplies_of_supplied? supplied
    have assembled := assemble_inService describes supplies.constituents supplies.named freshId
    rw [translated out]
    constructor
    · rintro ⟨restorable, service, given, rfl⟩
      obtain ⟨distinct, rfl⟩ := (assembled service).mp given
      exact ⟨members, rfl, restorable, distinct, rfl⟩
    · rintro ⟨_, same, restorable, distinct, rfl⟩
      obtain rfl := Option.some.inj same
      exact ⟨restorable, _, (assembled _).mpr ⟨distinct, rfl⟩, rfl⟩

/-- Constituents that are counted anew, with their functions. -/
def countedMembers (members : List Supplied) : List Supplied :=
  numberedMembers (freshIndices [] members.length) members

/-- A service whose constituents are counted anew. -/
def countedService (nsd : Nsd) (members : List Supplied) : Nsd :=
  { nsd with constituents := (countedMembers members).map Prod.fst }

private theorem countedMembers_eq_map_zip (members : List Supplied) :
    countedMembers members = (List.zip (freshIndices [] members.length) members).map fun entry =>
      ({ index := entry.1, vnfd := entry.2.2.id, startByDefault := entry.2.1.startByDefault },
        entry.2.2) := by
  rw [countedMembers, numberedMembers, ← List.map_uncurry_zip_eq_zipWith]
  rfl

/-- Counting anew keeps the functions. -/
theorem map_snd_countedMembers (members : List Supplied) :
    (countedMembers members).map Prod.snd = members.map Prod.snd := by
  have paired := @List.map_snd_zip _ _ (freshIndices [] members.length) members (by simp)
  rw [countedMembers_eq_map_zip, List.map_map]
  calc (List.zip (freshIndices [] members.length) members).map (Prod.snd ∘ Prod.snd)
    _ = ((List.zip (freshIndices [] members.length) members).map Prod.snd).map Prod.snd :=
      List.map_map.symm
    _ = members.map Prod.snd := by rw [paired]

/-- Members that are counted anew have distinct indices, as long as there are enough. -/
theorem nodup_countedIndices {members : List Supplied} (room : members.length ≤ UInt32.size) :
    ((countedMembers members).map (·.1.index)).Nodup := by
  have counted : (countedMembers members).map (·.1.index) = freshIndices [] members.length := by
    rw [countedMembers_eq_map_zip, List.map_map]
    exact List.map_fst_zip (by simp)
  rw [counted]
  exact nodup_freshIndices room

theorem exists_of_mem_countedMembers {members : List Supplied} {m : Supplied}
    (member : m ∈ countedMembers members) :
    ∃ source ∈ members, m.2 = source.2 ∧ m.1.vnfd = source.2.id := by
  obtain ⟨n, counted⟩ := List.mem_iff_getElem?.mp member
  obtain ⟨index, source, -, given, rfl⟩ := List.getElem?_zipWith_eq_some.mp counted
  exact ⟨source, List.mem_of_getElem? given, rfl, rfl⟩

theorem supplies_countedMembers {nsd : Nsd} {members : List Supplied}
    (supplies : Supplies nsd members) :
    Supplies (countedService nsd members) (countedMembers members) where
  constituents := rfl
  named m member := by
    obtain ⟨source, -, same, named⟩ := exists_of_mem_countedMembers member
    rw [same, named]
  alike m member other otherMember := by
    obtain ⟨source, inSource, same, -⟩ := exists_of_mem_countedMembers member
    obtain ⟨otherSource, inOther, otherSame, -⟩ := exists_of_mem_countedMembers otherMember
    rw [same, otherSame]
    exact supplies.alike source inSource otherSource inOther

/-- Constituents that can come back can come back counted anew. -/
theorem restorable_countedMembers {nsd : Nsd} {members : List Supplied}
    (restorable : Restorable nsd members) :
    Restorable (countedService nsd members) (countedMembers members) where
  sizes m member := by
    obtain ⟨source, inSource, same, -⟩ := exists_of_mem_countedMembers member
    exact same ▸ restorable.sizes source inSource
  configurations m member := by
    obtain ⟨source, inSource, same, -⟩ := exists_of_mem_countedMembers member
    exact same ▸ restorable.configurations source inSource
  free :=
    { configurations := fun m member => by
        obtain ⟨source, inSource, same, -⟩ := exists_of_mem_countedMembers member
        exact same ▸ restorable.free.configurations source inSource
      actions := restorable.free.actions
      parameters := restorable.free.parameters }

private theorem restored_countedService {first : Vnfd} {vnfds : List Vnfd}
    (members : List Supplied) :
    restored (countedService (looseService first vnfds) members) (countedMembers members) =
      { nsds := [countedService (looseService first vnfds) members]
        vnfds := restoredVnfds members } := by
  have functions : restoredVnfds (countedMembers members) = restoredVnfds members := by
    have descriptors (members : List Supplied) : (members.map fun m => restoredVnfd m.2) =
        (members.map Prod.snd).map restoredVnfd := by
      rw [List.map_map]
      rfl
    rw [restoredVnfds, descriptors, map_snd_countedMembers, ← descriptors]
    rfl
  rw [restored, functions]
  simp [restoredNsd, countedService, looseService]

/-- A set of functions without a service comes back exactly if the functions can and there are
enough member indices for them. -/
theorem roundTrip_functions (freshId : Nat → String) (first : Vnfd) (rest : List Vnfd)
    (out : DescriptorSet) :
    roundTrip freshId { vnfds := first :: rest } = .ok out ↔
      ∃ members, supplied? { vnfds := first :: rest }
          (looseService first (first :: rest)).constituents = some members ∧
        Restorable (looseService first (first :: rest)) members ∧
          members.length ≤ UInt32.size ∧
            out = restored (countedService (looseService first (first :: rest)) members)
              (countedMembers members) := by
  have described : describedService { vnfds := first :: rest } =
      .ok (looseService first (first :: rest), false) := rfl
  cases supplied : supplied? { vnfds := first :: rest }
      (looseService first (first :: rest)).constituents with
  | none =>
    obtain ⟨error, refused⟩ := roundTrip_missing described freshId supplied
    simp [refused]
  | some members =>
    obtain ⟨layout, describes, translated⟩ := roundTrip_supplied described freshId supplied
    obtain ⟨artifacts, assembled⟩ := assemble_loose describes rfl freshId
    rw [translated out]
    simp only [restored_countedService]
    constructor
    · rintro ⟨restorable, service, given, rfl⟩
      obtain ⟨room, rfl⟩ := (assembled service).mp given
      exact ⟨members, rfl, restorable, room, rfl⟩
    · rintro ⟨_, same, restorable, room, rfl⟩
      obtain rfl := Option.some.inj same
      exact ⟨restorable, _, (assembled _).mpr ⟨room, rfl⟩, rfl⟩

/-! ## A pair of constituents -/

/-- A function of one machine with one interface. -/
def pongVnfd : Vnfd :=
  { id := "pong_vnfd"
    name := "pong"
    points := [{ name := "pong/cp0" }]
    vdus := [
      { id := "pong_vdu"
        name := "pong"
        count := some 1
        flavor := some { vcpus := some 2, memoryMb := some 4096, storageGb := some 10 }
        image := some "pong.qcow2"
        interfaces := [{ name := "eth0", pointRef := "pong/cp0" }] }] }

/-- A service of two constituents of one function, on one link. -/
def pongNsd : Nsd :=
  { id := "pong_nsd"
    name := "pong pair"
    constituents := [
      { index := 1, vnfd := "pong_vnfd" },
      { index := 2, vnfd := "pong_vnfd", startByDefault := some false }]
    vlds := [
      { id := "link"
        pointRefs := [⟨1, "pong_vnfd", "pong/cp0"⟩, ⟨2, "pong_vnfd", "pong/cp0"⟩] }] }

/-- The service with its function. -/
def pongPair : DescriptorSet := { nsds := [pongNsd], vnfds := [pongVnfd] }

/-- The constituents of the service with their function. -/
def pongMembers : List Supplied := pongNsd.constituents.map fun member => (member, pongVnfd)

theorem supplied?_pongPair : supplied? pongPair pongNsd.constituents = some pongMembers := rfl

theorem eq_pongVnfd_of_mem {m : Supplied} (member : m ∈ pongMembers) : m.2 = pongVnfd := by
  obtain ⟨_, -, rfl⟩ := List.mem_map.mp member
  rfl

private theorem pongVnfd_sizesFit : ∀ vdu ∈ pongVnfd.vdus, vdu.SizesFit := by
  simp only [pongVnfd, List.forall_mem_singleton]
  rintro flavor ⟨⟩
  exact ⟨by rintro _ ⟨⟩; decide, by rintro _ ⟨⟩; decide⟩

theorem pongMembers_restorable : Restorable pongNsd pongMembers where
  sizes m member := eq_pongVnfd_of_mem member ▸ pongVnfd_sizesFit
  configurations m member value given := by simp [eq_pongVnfd_of_mem member, pongVnfd] at given
  free :=
    { configurations := fun m member value given => by
        simp [eq_pongVnfd_of_mem member, pongVnfd] at given
      actions := by simp [pongNsd]
      parameters := by simp [pongNsd] }

/-- The pair comes back. -/
theorem roundTrip_pongPair (freshId : Nat → String) :
    roundTrip freshId pongPair = .ok (restored pongNsd pongMembers) :=
  (roundTrip_service ..).mpr
    ⟨pongMembers, supplied?_pongPair, pongMembers_restorable, by decide, rfl⟩

end NfvCatalog.Translation
