import Mathlib.Data.List.Duplicate
import Mathlib.Data.List.Flatten
import NfvCatalog.Proofs.Descriptor.Valid
import NfvCatalog.Proofs.Text.Blank

/-! # What makes a descriptor unusable

The flaws of a descriptor are stated on the descriptor alone, and those of a service also on the
functions that are supplied with it. Validation reports an error exactly for the descriptors with a
flaw; warnings do not count.
-/

namespace NfvCatalog

/-! ## Errors in a list of issues -/

namespace Issue

theorem hasErrors_append_eq (issues others : List Issue) :
    hasErrors (issues ++ others) = (hasErrors issues || hasErrors others) := List.any_append

theorem hasErrors_flatMap_iff {α : Type} {items : List α} {f : α → List Issue} :
    hasErrors (items.flatMap f) = true ↔ ∃ item ∈ items, hasErrors (f item) = true := by
  simp only [hasErrors, List.any_flatMap, List.any_eq_true]

/-- One error for each item is an error as soon as there is an item. -/
theorem hasErrors_map_iff {α : Type} {f : α → Issue} (errors : ∀ item, (f item).isError = true)
    {items : List α} : hasErrors (items.map f) = true ↔ ∃ item, item ∈ items := by
  simp only [hasErrors, List.any_map, List.any_eq_true, Function.comp_apply, errors, and_true]

end Issue

/-- The check for a blank text finds the blank texts. -/
theorem isBlankText_iff {text : String} : isBlankText text = true ↔ Text.Blank text := by
  rw [isBlankText, Text.trim, String.isEmpty_iff, String.ofList_eq_empty_iff]
  exact Text.trimChars_eq_nil

/-- Something is reported as repeated exactly if some item occurs twice. -/
theorem exists_mem_repeated {α : Type} [DecidableEq α] {items : List α} :
    (∃ item, item ∈ repeated items) ↔ ∃ item, List.Duplicate item items := by
  rw [List.exists_duplicate_iff_not_nodup, ← repeated_eq_nil, List.eq_nil_iff_forall_not_mem]
  push Not
  rfl

/-! ## Functions

A function is flawed by names that are blank or repeat, numbers that are zero, and references that
name nothing.
-/

/-- One of the values of a flavor is zero. -/
def VmFlavor.HasZero (flavor : VmFlavor) : Prop :=
  flavor.vcpus = some 0 ∨ flavor.memoryMb = some 0 ∨ flavor.storageGb = some 0

namespace Vnfd

/-- What can make a function descriptor unusable. -/
inductive Flawed (vnfd : Vnfd) : Prop where
  | blankId (blank : Text.Blank vnfd.id)
  | blankVduId (vdu : Vdu) (member : vdu ∈ vnfd.vdus) (blank : Text.Blank vdu.id)
  | duplicateVdu (id : String) (twice : List.Duplicate id (vnfd.vdus.map (·.id)))
  | duplicatePoint (name : String) (twice : List.Duplicate name (vnfd.points.map (·.name)))
  | unknownPoint (vdu : Vdu) (member : vdu ∈ vnfd.vdus) (interface : ExternalInterface)
      (inVdu : interface ∈ vdu.interfaces)
      (unknown : ∀ point ∈ vnfd.points, point.name ≠ interface.pointRef)
  | zeroCount (vdu : Vdu) (member : vdu ∈ vnfd.vdus) (zero : vdu.count = some 0)
  | zeroFlavor (vdu : Vdu) (member : vdu ∈ vnfd.vdus) (flavor : VmFlavor)
      (sized : vdu.flavor = some flavor) (zero : flavor.HasZero)
  | unknownMgmtVdu (mgmt : MgmtInterface) (managed : vnfd.mgmt = some mgmt) (id : String)
      (named : mgmt.vdu = some id) (unknown : ∀ vdu ∈ vnfd.vdus, vdu.id ≠ id)
  | unknownMgmtPoint (mgmt : MgmtInterface) (managed : vnfd.mgmt = some mgmt) (name : String)
      (named : mgmt.cp = some name) (unknown : ∀ point ∈ vnfd.points, point.name ≠ name)
  | unknownInternalPoint (vld : InternalVld) (member : vld ∈ vnfd.internalVlds) (id : String)
      (inVld : id ∈ vld.pointRefs)
      (unknown : ∀ vdu ∈ vnfd.vdus, ∀ point ∈ vdu.internalPoints, point.id ≠ id)

/-! ### What each check of a function looks for -/

theorem declares_eq_false {vnfd : Vnfd} {name : String} :
    vnfd.declares name = false ↔ ∀ point ∈ vnfd.points, point.name ≠ name := by
  simp only [declares, List.any_eq_false, decide_eq_true_eq, ne_eq]

theorem hasInternalPoint_eq_false {vnfd : Vnfd} {id : String} :
    vnfd.hasInternalPoint id = false ↔
      ∀ vdu ∈ vnfd.vdus, ∀ point ∈ vdu.internalPoints, point.id ≠ id := by
  simp only [hasInternalPoint, List.any_eq_false, List.any_eq_true, decide_eq_true_eq, not_exists,
    not_and, ne_eq]

theorem vdu?_eq_none {vnfd : Vnfd} {id : String} :
    vnfd.vdu? id = none ↔ ∀ vdu ∈ vnfd.vdus, vdu.id ≠ id := by
  simp only [vdu?, List.find?_eq_none, decide_eq_true_eq, ne_eq]

theorem exists_mem_zeroFlavors {flavor : VmFlavor} :
    (∃ field, field ∈ zeroFlavors flavor) ↔ flavor.HasZero := by
  simp only [zeroFlavors, VmFlavor.HasZero, List.mem_append, exists_or, or_assoc]
  have one (condition : Prop) [Decidable condition] (field : FlavorField) :
      (∃ found, found ∈ if condition then [field] else []) ↔ condition := by
    by_cases holds : condition
    · simp [holds]
    · simp [holds]
  rw [one, one, one]

/-- The errors of one machine. -/
theorem hasErrors_vduIssues {vnfd : Vnfd} {vdu : Vdu} :
    Issue.hasErrors (vnfd.vduIssues vdu) = true ↔
      Text.Blank vdu.id ∨ vdu.count = some 0 ∨
        (∃ flavor, vdu.flavor = some flavor ∧ flavor.HasZero) ∨
        ∃ interface ∈ vdu.interfaces, ∀ point ∈ vnfd.points, point.name ≠ interface.pointRef := by
  rw [vduIssues]
  simp only [Issue.hasErrors_append_eq, Bool.or_eq_true, or_assoc]
  refine or_congr ?blank (or_congr ?count (or_congr ?flavor ?interfaces))
  case blank => rw [Issue.hasErrors_issueIf rfl, isBlankText_iff]
  case count => rw [Issue.hasErrors_issueIf rfl, decide_eq_true_eq]
  case flavor =>
    cases vdu.flavor with
    | none => simp [Issue.hasErrors]
    | some flavor =>
      rw [Issue.hasErrors_map_iff (fun _ => rfl), exists_mem_zeroFlavors]
      simp only [Option.some.injEq, exists_eq_left']
  case interfaces =>
    -- A machine without an image is only warned of.
    rw [Issue.hasErrors_warningIf rfl, Issue.hasErrors_map_iff (fun _ => rfl)]
    simp only [List.mem_filter, Bool.not_eq_true', declares_eq_false, Bool.false_eq_true, false_or]

/-- The errors of the management interface. -/
theorem hasErrors_mgmtIssues {vnfd : Vnfd} {mgmt : MgmtInterface} :
    Issue.hasErrors (vnfd.mgmtIssues mgmt) = true ↔
      (∃ id, mgmt.vdu = some id ∧ ∀ vdu ∈ vnfd.vdus, vdu.id ≠ id) ∨
        ∃ name, mgmt.cp = some name ∧ ∀ point ∈ vnfd.points, point.name ≠ name := by
  rw [mgmtIssues, Issue.hasErrors_append_eq, Bool.or_eq_true]
  refine or_congr ?_ ?_
  · cases mgmt.vdu with
    | none => simp [Issue.hasErrors]
    | some id =>
      rw [Issue.hasErrors_issueIf rfl, Option.isNone_iff_eq_none, vdu?_eq_none]
      simp only [Option.some.injEq, exists_eq_left']
  · cases mgmt.cp with
    | none => simp [Issue.hasErrors]
    | some name =>
      rw [Issue.hasErrors_issueIf rfl, Bool.not_eq_true', declares_eq_false]
      simp only [Option.some.injEq, exists_eq_left']

/-- The errors of one internal link. -/
theorem hasErrors_internalVldIssues {vnfd : Vnfd} {vld : InternalVld} :
    Issue.hasErrors (vnfd.internalVldIssues vld) = true ↔
      ∃ id ∈ vld.pointRefs,
        ∀ vdu ∈ vnfd.vdus, ∀ point ∈ vdu.internalPoints, point.id ≠ id := by
  rw [internalVldIssues, Issue.hasErrors_map_iff (fun _ => rfl)]
  simp only [List.mem_filter, Bool.not_eq_true', hasInternalPoint_eq_false]

/-! ### The whole function -/

/-- The errors of a function are those of its checks. -/
theorem hasErrors_validate {vnfd : Vnfd} :
    Issue.hasErrors vnfd.validate = true ↔
      Text.Blank vnfd.id ∨ (∃ id, List.Duplicate id (vnfd.vdus.map (·.id))) ∨
        (∃ name, List.Duplicate name (vnfd.points.map (·.name))) ∨
        (∃ vdu ∈ vnfd.vdus, Issue.hasErrors (vnfd.vduIssues vdu) = true) ∨
        (∃ mgmt, vnfd.mgmt = some mgmt ∧ Issue.hasErrors (vnfd.mgmtIssues mgmt) = true) ∨
        ∃ vld ∈ vnfd.internalVlds, Issue.hasErrors (vnfd.internalVldIssues vld) = true := by
  rw [validate]
  simp only [Issue.hasErrors_append_eq, Bool.or_eq_true, or_assoc]
  refine or_congr ?blank ?rest
  case blank => rw [Issue.hasErrors_issueIf rfl, isBlankText_iff]
  -- A function without machines is only warned of.
  rw [Issue.hasErrors_warningIf rfl, Bool.false_eq_true, false_or]
  refine or_congr ?vdus (or_congr ?points (or_congr ?machines (or_congr ?mgmt ?links)))
  case vdus => rw [Issue.hasErrors_map_iff (fun _ => rfl), exists_mem_repeated]
  case points => rw [Issue.hasErrors_map_iff (fun _ => rfl), exists_mem_repeated]
  case machines => exact Issue.hasErrors_flatMap_iff
  case mgmt =>
    cases vnfd.mgmt with
    | none => simp [Issue.hasErrors]
    | some mgmt => simp only [Option.some.injEq, exists_eq_left']
  case links => exact Issue.hasErrors_flatMap_iff

/-- Validation finds an error exactly in the function descriptors that have a flaw. -/
theorem hasErrors_validate_iff_flawed (vnfd : Vnfd) :
    Issue.hasErrors vnfd.validate = true ↔ vnfd.Flawed := by
  rw [hasErrors_validate]
  simp only [hasErrors_vduIssues, hasErrors_mgmtIssues, hasErrors_internalVldIssues]
  constructor
  · rintro (blank | ⟨id, twice⟩ | ⟨name, twice⟩ | ⟨vdu, member, flaw⟩ | ⟨mgmt, managed, flaw⟩ |
      ⟨vld, member, id, inVld, unknown⟩)
    · exact .blankId blank
    · exact .duplicateVdu id twice
    · exact .duplicatePoint name twice
    · rcases flaw with blank | zero | ⟨flavor, sized, zero⟩ | ⟨interface, inVdu, unknown⟩
      · exact .blankVduId vdu member blank
      · exact .zeroCount vdu member zero
      · exact .zeroFlavor vdu member flavor sized zero
      · exact .unknownPoint vdu member interface inVdu unknown
    · rcases flaw with ⟨id, named, unknown⟩ | ⟨name, named, unknown⟩
      · exact .unknownMgmtVdu mgmt managed id named unknown
      · exact .unknownMgmtPoint mgmt managed name named unknown
    · exact .unknownInternalPoint vld member id inVld unknown
  · intro flawed
    cases flawed with
    | blankId blank => exact .inl blank
    | duplicateVdu id twice => exact .inr (.inl ⟨id, twice⟩)
    | duplicatePoint name twice => exact .inr (.inr (.inl ⟨name, twice⟩))
    | blankVduId vdu member blank => exact .inr (.inr (.inr (.inl ⟨vdu, member, .inl blank⟩)))
    | zeroCount vdu member zero => exact .inr (.inr (.inr (.inl ⟨vdu, member, .inr (.inl zero)⟩)))
    | zeroFlavor vdu member flavor sized zero =>
      exact .inr (.inr (.inr (.inl ⟨vdu, member, .inr (.inr (.inl ⟨flavor, sized, zero⟩))⟩)))
    | unknownPoint vdu member interface inVdu unknown =>
      exact .inr (.inr (.inr (.inl
        ⟨vdu, member, .inr (.inr (.inr ⟨interface, inVdu, unknown⟩))⟩)))
    | unknownMgmtVdu mgmt managed id named unknown =>
      exact .inr (.inr (.inr (.inr (.inl ⟨mgmt, managed, .inl ⟨id, named, unknown⟩⟩))))
    | unknownMgmtPoint mgmt managed name named unknown =>
      exact .inr (.inr (.inr (.inr (.inl ⟨mgmt, managed, .inr ⟨name, named, unknown⟩⟩))))
    | unknownInternalPoint vld member id inVld unknown =>
      exact .inr (.inr (.inr (.inr (.inr ⟨vld, member, id, inVld, unknown⟩))))

end Vnfd

/-! ## Services

A service is flawed by a blank id, names that repeat, crossed bounds, and references that agree with
no constituent or name a connection point that the supplied function does not declare. A function
that is not supplied is warned of and causes no error.
-/

namespace Nsd

/-- What can be wrong with a reference to a connection point of a constituent. -/
inductive Misrefers (nsd : Nsd) (vnfds : List Vnfd) (ref : PointRef) : Prop where
  | unknownMember (unknown : ∀ member ∈ nsd.constituents, member.index ≠ ref.member)
  | otherVnfd (member : ConstituentVnfd) (constituent : member ∈ nsd.constituents)
      (named : member.index = ref.member) (other : member.vnfd ≠ ref.vnfd)
  | missingPoint (vnfd : Vnfd) (supplied : vnfd ∈ vnfds) (named : vnfd.id = ref.vnfd)
      (missing : ∀ point ∈ vnfd.points, point.name ≠ ref.point)

/-- What can make a service descriptor unusable, given the functions that are supplied. -/
inductive Flawed (nsd : Nsd) (vnfds : List Vnfd) : Prop where
  | blankId (blank : Text.Blank nsd.id)
  | duplicateMember (index : UInt32)
      (twice : List.Duplicate index (nsd.constituents.map (·.index)))
  | duplicateVld (id : String) (twice : List.Duplicate id (nsd.vlds.map (·.id)))
  | link (vld : Vld) (own : vld ∈ nsd.vlds) (ref : PointRef) (inLink : ref ∈ vld.pointRefs)
      (wrong : nsd.Misrefers vnfds ref)
  | hop (graph : ForwardingGraph) (own : graph ∈ nsd.graphs) (path : ServicePath)
      (inGraph : path ∈ graph.paths) (hop : PathHop) (onPath : hop ∈ path.hops)
      (wrong : nsd.Misrefers vnfds ⟨hop.member, hop.vnfd, hop.point⟩)
  | crossedBounds (group : ScalingGroup) (own : group ∈ nsd.scalingGroups) (least greatest : UInt32)
      (lower : group.minInstances = some least) (upper : group.maxInstances = some greatest)
      (crossed : greatest < least)
  | unknownScaled (group : ScalingGroup) (own : group ∈ nsd.scalingGroups) (scaled : ScalingMember)
      (inGroup : scaled ∈ group.members)
      (unknown : ∀ member ∈ nsd.constituents, member.index ≠ scaled.member)
  | unknownPlaced (group : PlacementGroup) (own : group ∈ nsd.placementGroups)
      (placed : PlacementMember) (inGroup : placed ∈ group.members)
      (unknown : ∀ member ∈ nsd.constituents, member.index ≠ placed.member)
  | otherPlaced (group : PlacementGroup) (own : group ∈ nsd.placementGroups)
      (placed : PlacementMember) (inGroup : placed ∈ group.members) (member : ConstituentVnfd)
      (constituent : member ∈ nsd.constituents) (named : member.index = placed.member)
      (other : member.vnfd ≠ placed.vnfd)
  | duplicateSeq (seq : UInt32) (twice : List.Duplicate seq (nsd.primitives.map (·.seq)))

/-! ### Looking up constituents and functions -/

variable {nsd : Nsd} {vnfds : List Vnfd}

theorem memberVnfd?_eq_none {index : UInt32} :
    nsd.memberVnfd? index = none ↔ ∀ member ∈ nsd.constituents, member.index ≠ index := by
  simp [memberVnfd?]

/-- With distinct indices the constituent of an index is the one that counts. -/
theorem memberVnfd?_eq_some_iff (indices : (nsd.constituents.map (·.index)).Nodup) {index : UInt32}
    {id : String} :
    nsd.memberVnfd? index = some id ↔
      ∃ member ∈ nsd.constituents, member.index = index ∧ member.vnfd = id := by
  rw [memberVnfd?, find?_reverse_key ConstituentVnfd.index indices, Option.map_eq_some_iff]
  simp only [find?_key_eq_some_iff ConstituentVnfd.index indices, and_assoc]

end Nsd

/-- With distinct ids the function of an id is the one that is looked at. -/
theorem checkedVnfd?_eq_some_iff {vnfds : List Vnfd} (distinct : (vnfds.map (·.id)).Nodup)
    {id : String} {vnfd : Vnfd} :
    checkedVnfd? vnfds id = some vnfd ↔ vnfd ∈ vnfds ∧ vnfd.id = id := by
  rw [checkedVnfd?, find?_reverse_key Vnfd.id distinct, find?_key_eq_some_iff Vnfd.id distinct]

theorem Vnfd.point?_eq_none {vnfd : Vnfd} {name : String} :
    vnfd.point? name = none ↔ ∀ point ∈ vnfd.points, point.name ≠ name := by
  simp only [Vnfd.point?, List.find?_eq_none, decide_eq_true_eq, ne_eq]

namespace Nsd

variable {nsd : Nsd} {vnfds : List Vnfd}

/-! ### What each check of a service looks for -/

/-- A reference is an error if no constituent has its index, if the one that counts is of another
function, or if the function that is looked at lacks the point. -/
theorem hasErrors_pointRefIssues {path : String} {ref : PointRef} :
    Issue.hasErrors (nsd.pointRefIssues vnfds path ref) = true ↔
      nsd.memberVnfd? ref.member = none ∨
        (∃ actual, nsd.memberVnfd? ref.member = some actual ∧ actual ≠ ref.vnfd) ∨
        nsd.memberVnfd? ref.member = some ref.vnfd ∧
          ∃ vnfd, checkedVnfd? vnfds ref.vnfd = some vnfd ∧ vnfd.point? ref.point = none := by
  rw [pointRefIssues]
  cases nsd.memberVnfd? ref.member with
  | none => simp [Issue.hasErrors, Issue.isError, Issue.severity, Problem.severity]
  | some actual =>
    by_cases same : actual = ref.vnfd
    · cases checkedVnfd? vnfds ref.vnfd with
      | none => simp [same, Issue.hasErrors]
      | some vnfd =>
        have missing : Issue.hasErrors (issueIf (vnfd.point? ref.point).isNone path
            (.missingPoint ref.vnfd ref.point)) = (vnfd.point? ref.point).isNone :=
          Issue.hasErrors_issueIf rfl ..
        simp [same, missing]
    · simp [same, Issue.hasErrors, Issue.isError, Issue.severity, Problem.severity]

/-- With distinct indices and ids it does not matter which constituent and which function are looked
at. -/
theorem hasErrors_pointRefIssues_iff_misrefers
    (indices : (nsd.constituents.map (·.index)).Nodup) (distinct : (vnfds.map (·.id)).Nodup)
    {path : String} {ref : PointRef} :
    Issue.hasErrors (nsd.pointRefIssues vnfds path ref) = true ↔ nsd.Misrefers vnfds ref := by
  rw [hasErrors_pointRefIssues]
  constructor
  · rintro (unknown | ⟨actual, found, other⟩ | ⟨-, vnfd, checked, missing⟩)
    · exact .unknownMember (memberVnfd?_eq_none.mp unknown)
    · obtain ⟨member, constituent, named, rfl⟩ := (memberVnfd?_eq_some_iff indices).mp found
      exact .otherVnfd member constituent named other
    · obtain ⟨supplied, named⟩ := (checkedVnfd?_eq_some_iff distinct).mp checked
      exact .missingPoint vnfd supplied named (Vnfd.point?_eq_none.mp missing)
  · intro misrefers
    cases misrefers with
    | unknownMember unknown => exact .inl (memberVnfd?_eq_none.mpr unknown)
    | otherVnfd member constituent named other =>
      have found := (memberVnfd?_eq_some_iff indices).mpr ⟨member, constituent, named, rfl⟩
      exact .inr (.inl ⟨member.vnfd, found, other⟩)
    | missingPoint vnfd supplied named missing =>
      -- The function is only looked at for a member of its id; without one there is another error.
      have checked := (checkedVnfd?_eq_some_iff distinct).mpr ⟨supplied, named⟩
      cases found : nsd.memberVnfd? ref.member with
      | none => exact .inl rfl
      | some actual =>
        by_cases same : actual = ref.vnfd
        · exact .inr (.inr ⟨congrArg some same, vnfd, checked, Vnfd.point?_eq_none.mpr missing⟩)
        · exact .inr (.inl ⟨actual, rfl, same⟩)

/-- The errors of one scaling group. -/
theorem hasErrors_scalingIssues {group : ScalingGroup} :
    Issue.hasErrors (nsd.scalingIssues group) = true ↔
      (∃ least greatest, group.minInstances = some least ∧ group.maxInstances = some greatest ∧
        greatest < least) ∨
        ∃ scaled ∈ group.members, ∀ member ∈ nsd.constituents, member.index ≠ scaled.member := by
  rw [scalingIssues, Issue.hasErrors_append_eq, Bool.or_eq_true]
  refine or_congr ?bounds ?members
  case bounds =>
    cases group.minInstances with
    | none => simp [Issue.hasErrors]
    | some least =>
      cases group.maxInstances with
      | none => simp [Issue.hasErrors]
      | some greatest =>
        rw [Issue.hasErrors_issueIf rfl, decide_eq_true_eq]
        simp
  case members =>
    rw [Issue.hasErrors_map_iff (fun _ => rfl)]
    simp only [List.mem_filter, Option.isNone_iff_eq_none, memberVnfd?_eq_none]

/-- The errors of one placement group. -/
theorem hasErrors_placementIssues (indices : (nsd.constituents.map (·.index)).Nodup)
    {group : PlacementGroup} :
    Issue.hasErrors (nsd.placementIssues group) = true ↔
      ∃ placed ∈ group.members,
        (∀ member ∈ nsd.constituents, member.index ≠ placed.member) ∨
          ∃ member ∈ nsd.constituents,
            member.index = placed.member ∧ member.vnfd ≠ placed.vnfd := by
  rw [placementIssues, Issue.hasErrors_flatMap_iff]
  refine exists_congr fun placed => and_congr_right fun _ => ?_
  rw [placementMemberIssues, ← memberVnfd?_eq_none]
  cases found : nsd.memberVnfd? placed.member with
  | none => simp [Issue.hasErrors, Issue.isError, Issue.severity, Problem.severity]
  | some actual =>
    rw [Issue.hasErrors_issueIf rfl, decide_eq_true_eq]
    constructor
    · intro other
      obtain ⟨member, constituent, named, rfl⟩ := (memberVnfd?_eq_some_iff indices).mp found
      exact .inr ⟨member, constituent, named, other⟩
    · rintro (impossible | ⟨member, constituent, named, other⟩)
      · cases impossible
      · have counts := (memberVnfd?_eq_some_iff indices).mpr ⟨member, constituent, named, rfl⟩
        rw [found] at counts
        rwa [Option.some.inj counts]

/-- The primitives have no error exactly if their sequence numbers are new and distinct. -/
theorem hasErrors_primitiveIssues {seen : List UInt32} {primitives : List ConfigPrimitive} :
    Issue.hasErrors (nsd.primitiveIssues seen primitives) = false ↔
      (primitives.map (·.seq)).Nodup ∧ ∀ primitive ∈ primitives, primitive.seq ∉ seen := by
  induction primitives generalizing seen with
  | nil => simp [primitiveIssues, Issue.hasErrors]
  | cons primitive rest ih =>
    rw [primitiveIssues, Issue.hasErrors_append, ih, nodup_and_fresh_cons ConfigPrimitive.seq,
      Issue.hasErrors_issueIf rfl]
    simp only [List.contains_eq_mem, decide_eq_false_iff_not]

/-! ### The whole service -/

/-- The errors of a service are those of its checks. -/
theorem hasErrors_validate :
    Issue.hasErrors (nsd.validate vnfds) = true ↔
      Text.Blank nsd.id ∨ (∃ index, List.Duplicate index (nsd.constituents.map (·.index))) ∨
        (∃ id, List.Duplicate id (nsd.vlds.map (·.id))) ∨
        (∃ vld ∈ nsd.vlds, Issue.hasErrors (nsd.vldIssues vnfds vld) = true) ∨
        (∃ group ∈ nsd.scalingGroups, Issue.hasErrors (nsd.scalingIssues group) = true) ∨
        (∃ group ∈ nsd.placementGroups, Issue.hasErrors (nsd.placementIssues group) = true) ∨
        (∃ seq, List.Duplicate seq (nsd.primitives.map (·.seq))) ∨
        ∃ graph ∈ nsd.graphs, ∃ path ∈ graph.paths,
          Issue.hasErrors (nsd.pathIssues vnfds graph path) = true := by
  rw [validate]
  simp only [Issue.hasErrors_append_eq, Bool.or_eq_true, or_assoc]
  refine or_congr ?blank ?rest
  case blank => rw [Issue.hasErrors_issueIf rfl, isBlankText_iff]
  -- A service without constituents is only warned of.
  rw [Issue.hasErrors_warningIf rfl, Bool.false_eq_true, false_or]
  refine or_congr ?members (or_congr ?vlds (or_congr ?links (or_congr ?scaling (or_congr ?placement
    (or_congr ?primitives ?graphs)))))
  case members =>
    rw [List.exists_duplicate_iff_not_nodup, ← Bool.not_eq_false, hasErrors_constituentIssues]
    simp
  case vlds => rw [Issue.hasErrors_map_iff (fun _ => rfl), exists_mem_repeated]
  case links => exact Issue.hasErrors_flatMap_iff
  case scaling => exact Issue.hasErrors_flatMap_iff
  case placement => exact Issue.hasErrors_flatMap_iff
  case primitives =>
    rw [List.exists_duplicate_iff_not_nodup, ← Bool.not_eq_false, hasErrors_primitiveIssues]
    simp
  case graphs => simp only [Issue.hasErrors_flatMap_iff]

/-- Validation finds an error exactly in the services that have a flaw. -/
theorem hasErrors_validate_iff (distinct : (vnfds.map (·.id)).Nodup) :
    Issue.hasErrors (nsd.validate vnfds) = true ↔ nsd.Flawed vnfds := by
  rw [hasErrors_validate]
  by_cases indices : (nsd.constituents.map (·.index)).Nodup
  · simp only [vldIssues, pathIssues, Issue.hasErrors_flatMap_iff,
      hasErrors_pointRefIssues_iff_misrefers indices distinct, hasErrors_scalingIssues,
      hasErrors_placementIssues indices]
    constructor
    · rintro (blank | ⟨index, twice⟩ | ⟨id, twice⟩ | ⟨vld, own, ref, inLink, wrong⟩ |
        ⟨group, own, flaw⟩ | ⟨group, own, placed, inGroup, flaw⟩ | ⟨seq, twice⟩ |
        ⟨graph, own, path, inGraph, hop, onPath, wrong⟩)
      · exact .blankId blank
      · exact .duplicateMember index twice
      · exact .duplicateVld id twice
      · exact .link vld own ref inLink wrong
      · rcases flaw with ⟨least, greatest, lower, upper, crossed⟩ | ⟨scaled, inGroup, unknown⟩
        · exact .crossedBounds group own least greatest lower upper crossed
        · exact .unknownScaled group own scaled inGroup unknown
      · rcases flaw with unknown | ⟨member, constituent, named, other⟩
        · exact .unknownPlaced group own placed inGroup unknown
        · exact .otherPlaced group own placed inGroup member constituent named other
      · exact .duplicateSeq seq twice
      · exact .hop graph own path inGraph hop onPath wrong
    · intro flawed
      cases flawed with
      | blankId blank => exact .inl blank
      | duplicateMember index twice => exact .inr (.inl ⟨index, twice⟩)
      | duplicateVld id twice => exact .inr (.inr (.inl ⟨id, twice⟩))
      | link vld own ref inLink wrong =>
        exact .inr (.inr (.inr (.inl ⟨vld, own, ref, inLink, wrong⟩)))
      | crossedBounds group own least greatest lower upper crossed =>
        exact .inr (.inr (.inr (.inr (.inl
          ⟨group, own, .inl ⟨least, greatest, lower, upper, crossed⟩⟩))))
      | unknownScaled group own scaled inGroup unknown =>
        exact .inr (.inr (.inr (.inr (.inl ⟨group, own, .inr ⟨scaled, inGroup, unknown⟩⟩))))
      | unknownPlaced group own placed inGroup unknown =>
        exact .inr (.inr (.inr (.inr (.inr (.inl ⟨group, own, placed, inGroup, .inl unknown⟩)))))
      | otherPlaced group own placed inGroup member constituent named other =>
        exact .inr (.inr (.inr (.inr (.inr (.inl
          ⟨group, own, placed, inGroup, .inr ⟨member, constituent, named, other⟩⟩)))))
      | duplicateSeq seq twice =>
        exact .inr (.inr (.inr (.inr (.inr (.inr (.inl ⟨seq, twice⟩))))))
      | hop graph own path inGraph hop onPath wrong =>
        exact .inr (.inr (.inr (.inr (.inr (.inr (.inr
          ⟨graph, own, path, inGraph, hop, onPath, wrong⟩))))))
  · -- Where an index repeats, it is not settled which constituent a reference means, but the
    -- repetition is an error by itself.
    obtain ⟨index, twice⟩ := List.exists_duplicate_iff_not_nodup.mpr indices
    constructor
    · intro _
      exact .duplicateMember index twice
    · intro _
      exact .inr (.inl ⟨index, twice⟩)

end Nsd

/-! ### Functions that are not supplied

Leaving out functions takes errors away and adds none. Each constituent whose function is left out
is warned of.
-/

namespace Issue

/-- The errors among issues. -/
def errors (issues : List Issue) : List Issue := issues.filter isError

@[simp] theorem errors_append {issues others : List Issue} :
    errors (issues ++ others) = errors issues ++ errors others := List.filter_append ..

theorem errors_flatMap {α : Type} {items : List α} {f : α → List Issue} :
    errors (items.flatMap f) = items.flatMap fun item => errors (f item) := List.filter_flatMap

theorem errors_warningIf {problem : Problem} (warning : problem.severity = .warning)
    (condition : Bool) (path : String) : errors (issueIf condition path problem) = [] := by
  cases condition with
  | false => rfl
  | true => simp [issueIf, errors, isError, severity, warning]

end Issue

/-- A function that is looked at among fewer ones is looked at among all of them. -/
theorem checkedVnfd?_of_sublist {fewer vnfds : List Vnfd} (part : fewer.Sublist vnfds)
    (distinct : (vnfds.map (·.id)).Nodup) {id : String} {vnfd : Vnfd}
    (checked : checkedVnfd? fewer id = some vnfd) : checkedVnfd? vnfds id = some vnfd := by
  have distinctFewer : (fewer.map (·.id)).Nodup := (part.map _).nodup distinct
  obtain ⟨supplied, named⟩ := (checkedVnfd?_eq_some_iff distinctFewer).mp checked
  exact (checkedVnfd?_eq_some_iff distinct).mpr ⟨part.subset supplied, named⟩

namespace Nsd

variable {nsd : Nsd} {fewer vnfds : List Vnfd}

/-- A reference has no error among fewer functions that it does not have among all of them. -/
theorem errors_pointRefIssues_sublist (part : fewer.Sublist vnfds)
    (distinct : (vnfds.map (·.id)).Nodup) (path : String) (ref : PointRef) :
    (Issue.errors (nsd.pointRefIssues fewer path ref)).Sublist
      (Issue.errors (nsd.pointRefIssues vnfds path ref)) := by
  rw [pointRefIssues, pointRefIssues]
  cases nsd.memberVnfd? ref.member with
  | none => exact List.Sublist.refl _
  | some actual =>
    by_cases same : actual = ref.vnfd
    · cases checked : checkedVnfd? fewer ref.vnfd with
      | none => simp [same, Issue.errors]
      | some vnfd => rw [checkedVnfd?_of_sublist part distinct checked]
    · simp [same]

/-- Which functions are supplied makes no error of a constituent. -/
theorem errors_constituentIssues (seen : List UInt32) (constituents : List ConstituentVnfd) :
    Issue.errors (nsd.constituentIssues fewer seen constituents) =
      Issue.errors (nsd.constituentIssues vnfds seen constituents) := by
  induction constituents generalizing seen with
  | nil => rfl
  | cons member rest ih =>
    have warning (condition : Bool) (path : String) :
        Issue.errors (issueIf condition path (.vnfdNotSupplied member.vnfd)) = [] :=
      Issue.errors_warningIf rfl condition path
    simp only [constituentIssues, Issue.errors_append, warning, ih]

/-- Among fewer functions validation finds no other errors. -/
theorem errors_validate_sublist (part : fewer.Sublist vnfds)
    (distinct : (vnfds.map (·.id)).Nodup) :
    (Issue.errors (nsd.validate fewer)).Sublist (Issue.errors (nsd.validate vnfds)) := by
  have references (path : String) (refs : List PointRef) :
      (refs.flatMap fun ref => Issue.errors (nsd.pointRefIssues fewer path ref)).Sublist
        (refs.flatMap fun ref => Issue.errors (nsd.pointRefIssues vnfds path ref)) :=
    List.Sublist.flatMap_right _ fun ref _ =>
      errors_pointRefIssues_sublist part distinct path ref
  have links : (Issue.errors (nsd.vlds.flatMap (nsd.vldIssues fewer))).Sublist
      (Issue.errors (nsd.vlds.flatMap (nsd.vldIssues vnfds))) := by
    rw [Issue.errors_flatMap, Issue.errors_flatMap]
    apply List.Sublist.flatMap_right
    intro vld _
    rw [vldIssues, vldIssues, Issue.errors_flatMap, Issue.errors_flatMap]
    exact references _ _
  have graphs : (Issue.errors (nsd.graphs.flatMap fun graph =>
        graph.paths.flatMap (nsd.pathIssues fewer graph))).Sublist
      (Issue.errors (nsd.graphs.flatMap fun graph =>
        graph.paths.flatMap (nsd.pathIssues vnfds graph))) := by
    rw [Issue.errors_flatMap, Issue.errors_flatMap]
    apply List.Sublist.flatMap_right
    intro graph _
    rw [Issue.errors_flatMap, Issue.errors_flatMap]
    apply List.Sublist.flatMap_right
    intro path _
    rw [pathIssues, pathIssues, Issue.errors_flatMap, Issue.errors_flatMap]
    exact List.Sublist.flatMap_right _ fun hop _ =>
      errors_pointRefIssues_sublist part distinct _ _
  have constituents : Issue.errors (nsd.constituentIssues fewer [] nsd.constituents) =
      Issue.errors (nsd.constituentIssues vnfds [] nsd.constituents) :=
    errors_constituentIssues [] nsd.constituents
  rw [validate, validate]
  simp only [Issue.errors_append, constituents]
  exact (((((List.Sublist.refl _).append links).append (.refl _)).append (.refl _)).append
    (.refl _)).append graphs

/-- A constituent whose function is not supplied is warned of. -/
theorem exists_notSupplied {seen : List UInt32} {constituents : List ConstituentVnfd}
    {member : ConstituentVnfd} (constituent : member ∈ constituents)
    (absent : ∀ vnfd ∈ vnfds, vnfd.id ≠ member.vnfd) :
    ∃ issue ∈ nsd.constituentIssues vnfds seen constituents,
      issue.problem = .vnfdNotSupplied member.vnfd := by
  induction constituents generalizing seen with
  | nil => cases constituent
  | cons first rest ih =>
    rw [constituentIssues]
    simp only [List.mem_append]
    rcases List.mem_cons.mp constituent with rfl | later
    · have unchecked : checkedVnfd? vnfds member.vnfd = none := by
        simpa [checkedVnfd?] using absent
      rw [unchecked]
      exact ⟨_, .inl (.inr (List.mem_singleton_self _)), rfl⟩
    · obtain ⟨issue, warned, same⟩ := @ih (first.index :: seen) later
      exact ⟨issue, .inr warned, same⟩

/-- Validation finds an error exactly in the services that have a flaw. Functions that are not
supplied cause no errors but warnings. -/
theorem validate_reports_flaws (nsd : Nsd) (vnfds : List Vnfd)
    (distinct : (vnfds.map (·.id)).Nodup) :
    (Issue.hasErrors (nsd.validate vnfds) = true ↔ nsd.Flawed vnfds) ∧
      (∀ fewer, fewer.Sublist vnfds →
        (Issue.errors (nsd.validate fewer)).Sublist (Issue.errors (nsd.validate vnfds))) ∧
      ∀ member ∈ nsd.constituents, (∀ vnfd ∈ vnfds, vnfd.id ≠ member.vnfd) →
        ∃ issue ∈ nsd.validate vnfds,
          issue.problem = .vnfdNotSupplied member.vnfd ∧ issue.severity = .warning := by
  refine ⟨hasErrors_validate_iff distinct, fun fewer part => errors_validate_sublist part distinct,
    ?_⟩
  intro member constituent absent
  obtain ⟨issue, warned, same⟩ := @exists_notSupplied nsd vnfds [] _ _ constituent absent
  refine ⟨issue, ?_, same, by rw [Issue.severity, same]; rfl⟩
  simp only [validate, List.mem_append]
  exact .inl (.inl (.inl (.inl (.inl (.inl (.inr warned))))))

/-- A service of two functions. Its link names a connection point that is not there. -/
def strayNsd : Nsd :=
  { id := "stray_nsd"
    constituents := [{ index := 1, vnfd := "ping_vnfd" }, { index := 2, vnfd := "pong_vnfd" }]
    vlds := [
      { id := "link"
        pointRefs := [⟨1, "ping_vnfd", "ping/cp9"⟩, ⟨2, "pong_vnfd", "pong/cp0"⟩] }] }

/-- One of the two functions. -/
def strayVnfd : Vnfd := { id := "ping_vnfd", points := [{ name := "ping/cp0" }] }

/-- Of the function that is there the link asks too much, the other one is only warned of. Without
both there is no error. -/
theorem strayNsd_reported :
    ([strayVnfd].map (·.id)).Nodup ∧ Issue.hasErrors (strayNsd.validate [strayVnfd]) = true ∧
      (Issue.errors (strayNsd.validate [])).Sublist
        (Issue.errors (strayNsd.validate [strayVnfd])) ∧
      Issue.hasErrors (strayNsd.validate []) = false ∧
      ∃ issue ∈ strayNsd.validate [strayVnfd],
        issue.problem = .vnfdNotSupplied "pong_vnfd" ∧ issue.severity = .warning := by
  have distinct : ([strayVnfd].map (·.id)).Nodup := by decide
  obtain ⟨flaws, fewerErrors, warnings⟩ := validate_reports_flaws strayNsd [strayVnfd] distinct
  refine ⟨distinct, flaws.mpr ?_, fewerErrors [] (List.nil_sublist _), by decide +kernel, ?_⟩
  · exact .link _ (List.mem_singleton_self _) ⟨1, "ping_vnfd", "ping/cp9"⟩ (by decide)
      (.missingPoint strayVnfd (List.mem_singleton_self _) rfl (by decide))
  · exact warnings { index := 2, vnfd := "pong_vnfd" } (by decide) (by decide)

end Nsd

end NfvCatalog
