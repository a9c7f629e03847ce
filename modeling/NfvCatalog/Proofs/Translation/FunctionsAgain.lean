import NfvCatalog.Proofs.Descriptor.Written
import NfvCatalog.Proofs.Lists.Basic
import NfvCatalog.Proofs.Text.Blank
import NfvCatalog.Proofs.Translation.Identity

/-! # Functions that come back twice

A function that has come back once comes back as it is if the names of its files stay and its
connection points are in the order of its interfaces.
-/

namespace NfvCatalog

/-- The names of a machine's files stay when they are put into their directories and read back. -/
structure Vdu.FilesStay (vdu : Vdu) : Prop where
  image : ∀ file ∈ vdu.image, Translation.baseName ("images/" ++ file) = file
  cloudInit : ∀ file ∈ vdu.cloudInit, Translation.baseName ("cloud_init/" ++ file) = file

/-- The names of a function's files stay. -/
structure Vnfd.FilesStay (vnfd : Vnfd) : Prop where
  logo : ∀ file ∈ vnfd.logo, Translation.baseName ("icons/" ++ file) = file
  vdus : ∀ vdu ∈ vnfd.vdus, vdu.FilesStay

/-- The names of connection points are those that interfaces refer to, in order. -/
def Vnfd.PointsInOrder (vnfd : Vnfd) : Prop :=
  vnfd.points.map (·.name) = vnfd.interfaces.map (·.2.pointRef)

end NfvCatalog

namespace NfvCatalog.Translation

open Tosca

/-! ## Machines -/

theorem restoredFlavor_restoredFlavor (flavor : Option VmFlavor) :
    restoredFlavor (restoredFlavor flavor) = restoredFlavor flavor := by
  simp [restoredFlavor, Option.filter_filter]

theorem restoredEpa_restoredEpa (epa : Option GuestEpa) :
    restoredEpa (restoredEpa epa) = restoredEpa epa := by
  cases epa with
  | none => rfl
  | some epa =>
    rw [restoredEpa, restoredEpa, Option.map_some, filter_ne_some]
    split
    · rfl
    · next said => simp [said, Function.comp_def]

theorem restoredInterface_restoredInterface (interface : ExternalInterface) :
    restoredInterface (restoredInterface interface) = restoredInterface interface := by
  simp [restoredInterface]

/-- A machine that came back, with interfaces, comes back again if its files stay. -/
theorem restoredVdu_eq_iff {vdu back : Vdu}
    (cameBack : back = { restoredVdu vdu with interfaces := back.interfaces }) :
    { restoredVdu back with interfaces := back.interfaces } = back ↔ back.FilesStay := by
  constructor
  · intro same
    exact ⟨optionMap_eq_self.mp (congrArg Vdu.image same),
      optionMap_eq_self.mp (congrArg Vdu.cloudInit same)⟩
  · intro stay
    have image := optionMap_eq_self.mpr stay.image
    have cloudInit := optionMap_eq_self.mpr stay.cloudInit
    have checksum : (back.image.bind fun _ => back.imageChecksum) = back.imageChecksum := by
      rw [cameBack]
      cases vdu with
      | mk id name description count flavor epa image => cases image <;> rfl
    have flavor : restoredFlavor back.flavor = back.flavor := by
      rw [cameBack]
      exact restoredFlavor_restoredFlavor vdu.flavor
    have epa : restoredEpa back.epa = back.epa := by
      rw [cameBack]
      exact restoredEpa_restoredEpa vdu.epa
    have internal : [] = back.internalPoints := by rw [cameBack]; rfl
    simp only [restoredVdu, image, cloudInit, checksum, flavor, epa]
    rw [internal]

/-! ## Interfaces -/

/-- Of machines with one id only the first has interfaces. -/
def OnlyFirst (vdus : List Vdu) : Prop :=
  vdus.Pairwise fun first later => later.id = first.id → later.interfaces = []

private theorem interfaces_eq_nil_of_unnamed {named : List (String × ExternalInterface)}
    {id : String} (unnamed : ∀ entry ∈ named, entry.1 ≠ id) {vdus : List Vdu}
    (bare : ∀ vdu ∈ vdus, vdu.interfaces = []) :
    ∀ later ∈ withInterfaces named vdus, later.id = id → later.interfaces = [] := by
  induction vdus generalizing named with
  | nil => simp [withInterfaces]
  | cons vdu rest ih =>
    obtain ⟨own, others⟩ := List.forall_mem_cons.mp bare
    rw [withInterfaces]
    refine List.forall_mem_cons.mpr ⟨fun same => ?_, ih (fun entry kept =>
      unnamed entry (List.mem_of_mem_filter kept)) others⟩
    have none : named.filter (·.1 = vdu.id) = [] :=
      List.filter_eq_nil_iff.mpr fun entry member => by
        simpa [← show vdu.id = id from same] using unnamed entry member
    simp [own, none]

theorem onlyFirst_withInterfaces (named : List (String × ExternalInterface)) {vdus : List Vdu}
    (bare : ∀ vdu ∈ vdus, vdu.interfaces = []) : OnlyFirst (withInterfaces named vdus) := by
  induction vdus generalizing named with
  | nil => exact List.Pairwise.nil
  | cons vdu rest ih =>
    obtain ⟨-, others⟩ := List.forall_mem_cons.mp bare
    rw [withInterfaces]
    refine List.pairwise_cons.mpr ⟨interfaces_eq_nil_of_unnamed (fun entry kept => ?_) others,
      ih _ others⟩
    simpa using List.of_mem_filter kept

/-- Machines get back the interfaces that they had, if only the first of an id had any. -/
theorem withInterfaces_own {vdus : List Vdu} (first : OnlyFirst vdus) :
    withInterfaces (vdus.flatMap fun vdu => vdu.interfaces.map fun i => (vdu.id, i))
        (vdus.map restoredVdu) =
      vdus.map fun vdu => { restoredVdu vdu with interfaces := vdu.interfaces } := by
  induction vdus with
  | nil => rfl
  | cons vdu rest ih =>
    obtain ⟨later, restFirst⟩ := List.pairwise_cons.mp first
    have apart : ∀ entry ∈ rest.flatMap fun vdu => vdu.interfaces.map fun i => (vdu.id, i),
        entry.1 ≠ vdu.id := by
      intro entry member same
      obtain ⟨other, inRest, member⟩ := List.mem_flatMap.mp member
      obtain ⟨interface, inOther, rfl⟩ := List.mem_map.mp member
      simp [later other inRest same] at inOther
    have others : (rest.flatMap fun vdu => vdu.interfaces.map fun i => (vdu.id, i)).filter
        (·.1 ≠ vdu.id) = rest.flatMap fun vdu => vdu.interfaces.map fun i => (vdu.id, i) :=
      List.filter_eq_self.mpr fun entry member => by simpa using apart entry member
    have none : (rest.flatMap fun vdu => vdu.interfaces.map fun i => (vdu.id, i)).filter
        (·.1 = vdu.id) = [] :=
      List.filter_eq_nil_iff.mpr fun entry member => by simpa using apart entry member
    have own : (vdu.interfaces.map fun i => (vdu.id, i)).filter (·.1 = vdu.id) =
        vdu.interfaces.map fun i => (vdu.id, i) := by simp
    have ownOthers : (vdu.interfaces.map fun i => (vdu.id, i)).filter (·.1 ≠ vdu.id) = [] := by simp
    have id : (restoredVdu vdu).id = vdu.id := rfl
    have bare : (restoredVdu vdu).interfaces = [] := rfl
    rw [List.map_cons, List.flatMap_cons, withInterfaces, id, bare, List.filter_append, none, own,
      List.filter_append, others, ownOthers, List.map_cons]
    simp [ih restFirst, id]

private theorem exists_of_mem_withInterfaces {named : List (String × ExternalInterface)}
    {vdus : List Vdu} (bare : ∀ vdu ∈ vdus, vdu.interfaces = []) {back : Vdu}
    (member : back ∈ withInterfaces named vdus) :
    (∃ vdu ∈ vdus, back = { vdu with interfaces := back.interfaces }) ∧
      ∀ interface ∈ back.interfaces, ∃ entry ∈ named, entry.2 = interface := by
  induction vdus generalizing named with
  | nil => cases member
  | cons vdu rest ih =>
    obtain ⟨own, others⟩ := List.forall_mem_cons.mp bare
    rw [withInterfaces] at member
    rcases List.mem_cons.mp member with rfl | member
    · refine ⟨⟨vdu, List.mem_cons_self .., rfl⟩, fun interface given => ?_⟩
      rw [own, List.nil_append] at given
      obtain ⟨entry, kept, rfl⟩ := List.mem_map.mp given
      exact ⟨entry, List.mem_of_mem_filter kept, rfl⟩
    · obtain ⟨⟨source, inRest, same⟩, given⟩ := ih others member
      refine ⟨⟨source, List.mem_cons_of_mem _ inRest, same⟩, fun interface inBack => ?_⟩
      obtain ⟨entry, kept, rfl⟩ := given interface inBack
      exact ⟨entry, List.mem_of_mem_filter kept, rfl⟩

private theorem map_id_withInterfaces (named : List (String × ExternalInterface))
    (vdus : List Vdu) : (withInterfaces named vdus).map (·.id) = vdus.map (·.id) := by
  induction vdus generalizing named with
  | nil => rfl
  | cons vdu rest ih => rw [withInterfaces, List.map_cons, List.map_cons, ih]

/-- Every named interface goes to one machine. -/
private theorem perm_withInterfaces {named : List (String × ExternalInterface)} {vdus : List Vdu}
    (bare : ∀ vdu ∈ vdus, vdu.interfaces = [])
    (known : ∀ entry ∈ named, entry.1 ∈ vdus.map (·.id)) :
    ((withInterfaces named vdus).flatMap (·.interfaces)).Perm (named.map Prod.snd) := by
  induction vdus generalizing named with
  | nil =>
    have none : named = [] := List.eq_nil_iff_forall_not_mem.mpr fun entry member => by
      simpa using known entry member
    rw [none]
    exact .refl _
  | cons vdu rest ih =>
    obtain ⟨own, others⟩ := List.forall_mem_cons.mp bare
    have restKnown : ∀ entry ∈ named.filter (·.1 ≠ vdu.id), entry.1 ∈ rest.map (·.id) := by
      intro entry kept
      obtain ⟨member, other⟩ := List.mem_filter.mp kept
      rcases List.mem_cons.mp (known entry member) with same | inRest
      · simp [same] at other
      · exact inRest
    have split : (named.filter (·.1 = vdu.id) ++ named.filter (·.1 ≠ vdu.id)).Perm named := by
      simpa using List.filter_append_perm (fun entry => decide (entry.1 = vdu.id)) named
    rw [withInterfaces, List.flatMap_cons, own, List.nil_append]
    refine ((ih others restKnown).append_left _).trans ?_
    rw [← List.map_append]
    exact split.map Prod.snd

private theorem bare_restoredVdus (vdus : List Vdu) :
    ∀ vdu ∈ vdus.map restoredVdu, vdu.interfaces = [] :=
  List.forall_mem_map.mpr fun _ _ => rfl

/-! ## Management -/

/-- The management interface at the only machine, if there is only one. -/
private def onlyMachine : List String → Option MgmtInterface
  | [id] => some { vdu := some id }
  | _ => none

/-- A management interface without a machine that has none of the ids. -/
private def withinIds (ids : List String) (mgmt : MgmtInterface) : MgmtInterface :=
  { mgmt with vdu := mgmt.vdu.filter (· ∈ ids) }

private theorem withinIds_withinIds (ids : List String) (mgmt : MgmtInterface) :
    withinIds ids (withinIds ids mgmt) = withinIds ids mgmt := by
  simp [withinIds, Option.filter_filter]

/-- What comes back for a management interface depends on the ids of machines alone. -/
private theorem restoredMgmt_eq (vnfd : Vnfd) :
    restoredMgmt vnfd = ((vnfd.mgmt.map (withinIds (vnfd.vdus.map (·.id)))).filter (· ≠ { })).or
      (onlyMachine (vnfd.vdus.map (·.id))) := by
  have known (id : String) : (vnfd.vdu? id).isSome = decide (id ∈ vnfd.vdus.map (·.id)) := by
    rw [Bool.eq_iff_iff, Vnfd.vdu?, List.find?_isSome]
    simp
  simp only [restoredMgmt, known]
  refine congrArg (Option.or _) ?_
  cases vnfd.vdus with
  | nil => rfl
  | cons vdu rest => cases rest <;> rfl

private theorem onlyMachine_again (ids : List String) :
    (((onlyMachine ids).map (withinIds ids)).filter (· ≠ { })).or (onlyMachine ids) =
      onlyMachine ids := by
  match ids with
  | [] | _ :: _ :: _ => rfl
  | [id] =>
    have kept : withinIds [id] { vdu := some id } = { vdu := some id } := by
      simp [withinIds, Option.filter]
    rw [onlyMachine, Option.map_some, kept]
    rfl

/-! ## Functions -/

section Vdus

variable (vnfd : Vnfd)

private theorem vdu_of_restored {back : Vdu} (member : back ∈ (restoredVnfd vnfd).vdus) :
    (∃ vdu ∈ vnfd.vdus, back = { restoredVdu vdu with interfaces := back.interfaces }) ∧
      ∀ interface ∈ back.interfaces, restoredInterface interface = interface := by
  obtain ⟨⟨bare, inBare, same⟩, given⟩ :=
    exists_of_mem_withInterfaces (bare_restoredVdus vnfd.vdus) member
  obtain ⟨vdu, inVdus, rfl⟩ := List.mem_map.mp inBare
  refine ⟨⟨vdu, inVdus, same⟩, fun interface inBack => ?_⟩
  obtain ⟨entry, named, rfl⟩ := given interface inBack
  obtain ⟨source, -, rfl⟩ := List.mem_map.mp named
  exact restoredInterface_restoredInterface source.2

/-- Sizes that fit still fit once they came back. -/
theorem sizesFit_restored {vnfd : Vnfd} (fit : ∀ vdu ∈ vnfd.vdus, vdu.SizesFit) :
    ∀ vdu ∈ (restoredVnfd vnfd).vdus, vdu.SizesFit := by
  intro vdu member flavor given
  obtain ⟨⟨source, inVdus, same⟩, -⟩ := vdu_of_restored vnfd member
  have kept : restoredFlavor source.flavor = some flavor := by
    rw [same] at given
    exact given
  exact fit source inVdus flavor (Option.filter_eq_some_iff.mp kept).1

private theorem vdus_restored_restored :
    (restoredVnfd (restoredVnfd vnfd)).vdus =
      (restoredVnfd vnfd).vdus.map fun vdu =>
        { restoredVdu vdu with interfaces := vdu.interfaces } := by
  have first : OnlyFirst (restoredVnfd vnfd).vdus :=
    onlyFirst_withInterfaces _ (bare_restoredVdus vnfd.vdus)
  have named : ((restoredVnfd vnfd).interfaces.map fun entry =>
      (entry.1.id, restoredInterface entry.2)) =
        (restoredVnfd vnfd).vdus.flatMap fun vdu => vdu.interfaces.map fun i => (vdu.id, i) := by
    rw [Vnfd.interfaces, List.map_flatMap]
    refine List.flatMap_congr fun vdu member => ?_
    rw [List.map_map]
    refine List.map_congr_left fun interface inVdu => ?_
    have stays := (vdu_of_restored vnfd member).2 interface inVdu
    simp [stays]
  rw [← withInterfaces_own first, ← named]
  rfl

private theorem vdus_restored_eq_iff :
    (restoredVnfd (restoredVnfd vnfd)).vdus = (restoredVnfd vnfd).vdus ↔
      ∀ vdu ∈ (restoredVnfd vnfd).vdus, vdu.FilesStay := by
  have each : ∀ vdu ∈ (restoredVnfd vnfd).vdus,
      { restoredVdu vdu with interfaces := vdu.interfaces } = vdu ↔ vdu.FilesStay := by
    intro vdu member
    obtain ⟨⟨source, -, same⟩, -⟩ := vdu_of_restored vnfd member
    exact restoredVdu_eq_iff same
  rw [vdus_restored_restored, listMap_eq_self]
  exact forall₂_congr each

private theorem ids_restored : (restoredVnfd vnfd).vdus.map (·.id) = vnfd.vdus.map (·.id) := by
  refine (map_id_withInterfaces _ (vnfd.vdus.map restoredVdu)).trans ?_
  rw [List.map_map]
  rfl

private theorem restoredMgmt_restoredVnfd :
    restoredMgmt (restoredVnfd vnfd) = (restoredVnfd vnfd).mgmt := by
  have same : (restoredVnfd vnfd).mgmt = restoredMgmt vnfd := rfl
  rw [restoredMgmt_eq, ids_restored, same, restoredMgmt_eq]
  generalize vnfd.vdus.map (·.id) = ids
  cases own : (vnfd.mgmt.map (withinIds ids)).filter (· ≠ { }) with
  | none => rw [Option.none_or, onlyMachine_again]
  | some mgmt =>
    obtain ⟨mapped, said⟩ := Option.filter_eq_some_iff.mp own
    obtain ⟨source, -, rfl⟩ := Option.map_eq_some_iff.mp mapped
    rw [Option.some_or, Option.map_some, withinIds_withinIds, Option.filter_some, if_pos said,
      Option.some_or]

private theorem perm_pointRefs_restored :
    ((restoredVnfd vnfd).interfaces.map (·.2.pointRef)).Perm
      (vnfd.interfaces.map (·.2.pointRef)) := by
  have known : ∀ entry ∈ vnfd.interfaces.map fun entry =>
      (entry.1.id, restoredInterface entry.2),
        entry.1 ∈ (vnfd.vdus.map restoredVdu).map (·.id) := by
    refine List.forall_mem_map.mpr fun entry member => ?_
    rw [List.map_map]
    exact List.mem_map.mpr ⟨entry.1, (Vnfd.mem_interfaces.mp member).1, rfl⟩
  have interfaces := perm_withInterfaces (bare_restoredVdus vnfd.vdus) known
  have refs := interfaces.map (·.pointRef)
  rw [List.map_map, List.map_map] at refs
  rw [Vnfd.interfaces, List.map_flatMap]
  rw [List.map_flatMap] at refs
  simp only [List.map_map]
  exact refs

/-- As many interfaces come back on a connection point as there were. -/
theorem interfaceCount_restored (point : String) :
    (restoredVnfd vnfd).interfaceCount point = vnfd.interfaceCount point := by
  have count (vnfd : Vnfd) :
      vnfd.interfaceCount point = (vnfd.interfaces.map (·.2.pointRef)).count point := by
    rw [Vnfd.interfaceCount, List.count, List.countP_map]
    rfl
  rw [count, count]
  exact (perm_pointRefs_restored vnfd).count_eq point

/-- The type of a connection point that came back is that of its name. -/
private theorem pointTypeOf_restored {point : ConnectionPoint}
    (member : point ∈ (restoredVnfd vnfd).points) :
    pointTypeOf (restoredVnfd vnfd) point.name = point.pointType := by
  have typed := (mem_restoredPoints.mp member).1
  rw [pointTypeOf, Vnfd.point?]
  cases found : (restoredVnfd vnfd).points.find? (·.name = point.name) with
  | none => simpa using List.find?_eq_none.mp found point member
  | some first =>
    have named : first.name = point.name := by simpa using List.find?_some found
    have firstTyped := (mem_restoredPoints.mp (List.mem_of_find?_eq_some found)).1
    rw [Option.map_some, Option.getD_some, ← firstTyped, named, typed]

private theorem points_restored_eq_iff :
    restoredPoints (restoredVnfd vnfd) = (restoredVnfd vnfd).points ↔
      (restoredVnfd vnfd).PointsInOrder := by
  have again : restoredPoints (restoredVnfd vnfd) =
      ((restoredVnfd vnfd).interfaces.map (·.2.pointRef)).map fun point =>
        { name := point, pointType := pointTypeOf (restoredVnfd vnfd) point } := by
    rw [restoredPoints, List.map_map]
    rfl
  constructor
  · intro same
    rw [Vnfd.PointsInOrder, ← same, again, List.map_map]
    exact List.map_id _
  · intro inOrder
    rw [again, ← inOrder, List.map_map, listMap_eq_self]
    intro point member
    simp [pointTypeOf_restored vnfd member]

/-- JSON data for a configuration comes back as it is. -/
theorem configuration_restored {vnfd : Vnfd} (json : vnfd.ConfigurationIsJson) :
    (restoredVnfd vnfd).configuration = vnfd.configuration := by
  have back : (restoredVnfd vnfd).configuration =
      vnfd.configuration.bind fun value => value.toOpaque.toOption := rfl
  rw [back]
  cases given : vnfd.configuration with
  | none => rfl
  | some value =>
    rw [Option.bind_some, (json value given).toOpaque_eq]
    rfl

theorem configurationIsJson_restored {vnfd : Vnfd} (json : vnfd.ConfigurationIsJson) :
    (restoredVnfd vnfd).ConfigurationIsJson := by
  rwa [Vnfd.ConfigurationIsJson, configuration_restored json]

/-- A function that came back comes back as it is exactly if its files stay and its connection
points are in order. -/
theorem restoredVnfd_eq_iff (json : vnfd.ConfigurationIsJson) :
    restoredVnfd (restoredVnfd vnfd) = restoredVnfd vnfd ↔
      (restoredVnfd vnfd).FilesStay ∧ (restoredVnfd vnfd).PointsInOrder := by
  have logo : (restoredVnfd vnfd).logo.map (fun file => baseName ("icons/" ++ file)) =
      (restoredVnfd vnfd).logo ↔
        ∀ file ∈ (restoredVnfd vnfd).logo, baseName ("icons/" ++ file) = file := optionMap_eq_self
  have vdus := vdus_restored_eq_iff vnfd
  have points := points_restored_eq_iff vnfd
  constructor
  · intro same
    exact ⟨⟨logo.mp (congrArg Vnfd.logo same), vdus.mp (congrArg Vnfd.vdus same)⟩,
      points.mp (congrArg Vnfd.points same)⟩
  · rintro ⟨⟨logoStays, vdusStay⟩, inOrder⟩
    have configuration := configuration_restored (configurationIsJson_restored json)
    have rebuilt : restoredVnfd (restoredVnfd vnfd) =
        { restoredVnfd vnfd with
          logo := (restoredVnfd vnfd).logo.map fun file => baseName ("icons/" ++ file)
          mgmt := restoredMgmt (restoredVnfd vnfd)
          points := restoredPoints (restoredVnfd vnfd)
          vdus := (restoredVnfd (restoredVnfd vnfd)).vdus
          configuration := (restoredVnfd (restoredVnfd vnfd)).configuration } := rfl
    rw [rebuilt, logo.mpr logoStays, restoredMgmt_restoredVnfd, points.mpr inOrder,
      vdus.mpr vdusStay, configuration]

end Vdus

end NfvCatalog.Translation
