import NfvCatalog.Descriptor.Set
import NfvCatalog.Proofs.Lists.Basic

/-! # What validation promises

Validation finds no error, or is silent about references. Each says something of a descriptor.
-/

/-! ## Descriptors without errors

What validation promises when it finds no error, whatever it warns of: names that do not repeat,
interfaces on declared connection points, and references that agree with the constituents.
-/

namespace NfvCatalog

/-! ### Items that repeat -/

private theorem repeatedAfter_eq_nil {α : Type} [DecidableEq α] {seen items : List α} :
    repeatedAfter seen [] items = [] ↔ items.Nodup ∧ ∀ item ∈ items, item ∉ seen := by
  induction items generalizing seen with
  | nil => simp [repeatedAfter]
  | cons item rest ih =>
    rw [repeatedAfter]
    by_cases known : item ∈ seen
    · simp [known]
    · rw [if_neg known, ih, List.nodup_cons]
      constructor
      · rintro ⟨distinct, fresh⟩
        refine ⟨⟨fun member => fresh item member (List.mem_cons_self ..), distinct⟩, ?_⟩
        exact List.forall_mem_cons.mpr ⟨known, fun other member inSeen =>
          fresh other member (List.mem_cons_of_mem _ inSeen)⟩
      · rintro ⟨⟨absent, distinct⟩, fresh⟩
        refine ⟨distinct, fun other member inSeen => ?_⟩
        rcases List.mem_cons.mp inSeen with rfl | inSeen
        · exact absent member
        · exact fresh other (List.mem_cons_of_mem _ member) inSeen

/-- Nothing is reported as repeated exactly if the items are distinct. -/
theorem repeated_eq_nil {α : Type} [DecidableEq α] {items : List α} :
    repeated items = [] ↔ items.Nodup := by
  simp [repeated, repeatedAfter_eq_nil]

/-! ### Errors among issues -/

namespace Issue

theorem hasErrors_append {issues others : List Issue} :
    hasErrors (issues ++ others) = false ↔
      hasErrors issues = false ∧ hasErrors others = false := by
  simp only [hasErrors, List.any_append, Bool.or_eq_false_iff]

theorem hasErrors_flatMap {α : Type} {items : List α} {f : α → List Issue} :
    hasErrors (items.flatMap f) = false ↔ ∀ item ∈ items, hasErrors (f item) = false := by
  simp only [hasErrors, List.any_flatMap, List.any_eq_false, Bool.not_eq_true]

theorem hasErrors_map {α : Type} {f : α → Issue} (errors : ∀ item, (f item).isError = true)
    (items : List α) : hasErrors (items.map f) = false ↔ items = [] := by
  cases items with
  | nil => simp [hasErrors]
  | cons item rest => simp [hasErrors, errors item]

theorem hasErrors_issueIf {problem : Problem} (error : problem.severity = .error)
    (condition : Bool) (path : String) :
    hasErrors (issueIf condition path problem) = condition := by
  cases condition with
  | false => rfl
  | true => simp [issueIf, hasErrors, isError, severity, error]

theorem hasErrors_warningIf {problem : Problem} (warning : problem.severity = .warning)
    (condition : Bool) (path : String) : hasErrors (issueIf condition path problem) = false := by
  cases condition with
  | false => rfl
  | true => simp [issueIf, hasErrors, isError, severity, warning]

end Issue

/-! ### Functions -/

/-- The connection points of a function without errors have distinct names. -/
theorem Vnfd.nodup_points_of_valid {vnfd : Vnfd} (valid : Issue.hasErrors vnfd.validate = false) :
    (vnfd.points.map (·.name)).Nodup := by
  simp only [Vnfd.validate, Issue.hasErrors_append] at valid
  obtain ⟨⟨⟨⟨-, points⟩, -⟩, -⟩, -⟩ := valid
  rwa [Issue.hasErrors_map (fun _ => rfl), repeated_eq_nil] at points

/-- The interfaces of a function without errors are on declared connection points. -/
theorem Vnfd.declares_of_valid {vnfd : Vnfd} (valid : Issue.hasErrors vnfd.validate = false)
    {vdu : Vdu} (member : vdu ∈ vnfd.vdus) {interface : ExternalInterface}
    (inVdu : interface ∈ vdu.interfaces) : vnfd.declares interface.pointRef = true := by
  simp only [Vnfd.validate, Issue.hasErrors_append] at valid
  obtain ⟨⟨⟨-, machines⟩, -⟩, -⟩ := valid
  rw [Issue.hasErrors_flatMap] at machines
  have machine := machines vdu member
  simp only [Vnfd.vduIssues, Issue.hasErrors_append] at machine
  have interfaces := machine.2
  rw [Issue.hasErrors_map (fun _ => rfl), List.filter_eq_nil_iff] at interfaces
  simpa using interfaces interface inVdu

/-! ### Services -/

namespace Nsd

/-- The constituents have no error exactly if their indices are new and distinct. -/
theorem hasErrors_constituentIssues {nsd : Nsd} {vnfds : List Vnfd} {seen : List UInt32}
    {constituents : List ConstituentVnfd} :
    Issue.hasErrors (nsd.constituentIssues vnfds seen constituents) = false ↔
      (constituents.map (·.index)).Nodup ∧ ∀ member ∈ constituents, member.index ∉ seen := by
  induction constituents generalizing seen with
  | nil => simp [constituentIssues, Issue.hasErrors]
  | cons member rest ih =>
    rw [constituentIssues, Issue.hasErrors_append, Issue.hasErrors_append, ih,
      nodup_and_fresh_cons ConstituentVnfd.index, Issue.hasErrors_issueIf rfl,
      Issue.hasErrors_warningIf rfl]
    simp only [List.contains_eq_mem, decide_eq_false_iff_not, and_true]

variable {nsd : Nsd} {vnfds : List Vnfd} (valid : Issue.hasErrors (nsd.validate vnfds) = false)
include valid

/-- No part of a service without errors has an error. -/
private theorem parts_of_valid :
    Issue.hasErrors (nsd.constituentIssues vnfds [] nsd.constituents) = false ∧
      (∀ vld ∈ nsd.vlds, Issue.hasErrors (nsd.vldIssues vnfds vld) = false) ∧
      (∀ group ∈ nsd.scalingGroups, Issue.hasErrors (nsd.scalingIssues group) = false) ∧
      ∀ group ∈ nsd.placementGroups, Issue.hasErrors (nsd.placementIssues group) = false := by
  rw [validate] at valid
  simp only [Issue.hasErrors_append, Issue.hasErrors_flatMap] at valid
  obtain ⟨⟨⟨⟨⟨⟨⟨-, constituents⟩, -⟩, links⟩, scaling⟩, placement⟩, -⟩, -⟩ := valid
  exact ⟨constituents, links, scaling, placement⟩

/-- The constituents of a service without errors have distinct member indices. -/
theorem nodup_indices_of_valid : (nsd.constituents.map (·.index)).Nodup :=
  (hasErrors_constituentIssues.mp (parts_of_valid valid).1).1

/-- The links of a service without errors name the function of each constituent that they refer
to. -/
theorem memberVnfd?_of_valid {vld : Vld} (member : vld ∈ nsd.vlds) {ref : PointRef}
    (inLink : ref ∈ vld.pointRefs) : nsd.memberVnfd? ref.member = some ref.vnfd := by
  have link := (parts_of_valid valid).2.1 vld member
  rw [vldIssues, Issue.hasErrors_flatMap] at link
  have issues := link ref inLink
  rw [pointRefIssues] at issues
  cases found : nsd.memberVnfd? ref.member with
  | none => simp [found, Issue.hasErrors, Issue.isError, Issue.severity, Problem.severity] at issues
  | some actual =>
    by_cases same : actual = ref.vnfd
    · rw [same]
    · simp [found, same, Issue.hasErrors, Issue.isError, Issue.severity, Problem.severity] at issues

/-- The scaling groups of a service without errors refer to constituents. -/
theorem memberVnfd?_isSome_of_valid {group : ScalingGroup} (member : group ∈ nsd.scalingGroups)
    {m : ScalingMember} (inGroup : m ∈ group.members) :
    (nsd.memberVnfd? m.member).isSome = true := by
  have issues := (parts_of_valid valid).2.2.1 group member
  rw [scalingIssues, Issue.hasErrors_append] at issues
  obtain ⟨-, unknown⟩ := issues
  rw [Issue.hasErrors_map (fun _ => rfl), List.filter_eq_nil_iff] at unknown
  simpa [Option.isSome_iff_ne_none] using unknown m inGroup

/-- The placement groups of a service without errors name the function of each constituent that they
refer to. -/
theorem placementVnfd?_of_valid {group : PlacementGroup} (member : group ∈ nsd.placementGroups)
    {m : PlacementMember} (inGroup : m ∈ group.members) :
    nsd.memberVnfd? m.member = some m.vnfd := by
  have whole := (parts_of_valid valid).2.2.2 group member
  rw [placementIssues, Issue.hasErrors_flatMap] at whole
  have issues := whole m inGroup
  rw [placementMemberIssues] at issues
  cases found : nsd.memberVnfd? m.member with
  | none => simp [found, Issue.hasErrors, Issue.isError, Issue.severity, Problem.severity] at issues
  | some actual =>
    simp only [found] at issues
    rw [Issue.hasErrors_issueIf rfl] at issues
    rw [show actual = m.vnfd by simpa using issues]

end Nsd

/-! ## References that validation follows

Some findings are about references between the parts of descriptors: from the parts of a service to
its constituents and their functions, and inside a function from interfaces to connection points and
from the management interface to a machine. Validation is silent about references exactly if all of
them lead somewhere.
-/

namespace Problem

/-- A problem of a service with its constituents. -/
def ofMembers : Problem → Bool
  | duplicateMember | vnfdNotSupplied _ | unknownMember _ | otherVnfd .. => true
  | _ => false

/-- A problem of a function with a reference to a connection point from one of its machines, or to a
machine. -/
def ofMachines : Problem → Bool
  | unknownPoint .. | unknownMgmtVdu _ => true
  | _ => false

end Problem

/-! ### Silence -/

/-- No issue is of a class of problems. -/
def Silent (about : Problem → Bool) (issues : List Issue) : Prop :=
  ∀ issue ∈ issues, about issue.problem = false

section Silent

variable {about : Problem → Bool}

@[simp] theorem silent_nil : Silent about [] := by simp [Silent]

@[simp] theorem silent_cons {issue : Issue} {issues : List Issue} :
    Silent about (issue :: issues) ↔ about issue.problem = false ∧ Silent about issues := by
  simp [Silent]

@[simp] theorem silent_append {issues others : List Issue} :
    Silent about (issues ++ others) ↔ Silent about issues ∧ Silent about others := by
  simp [Silent, or_imp, forall_and]

theorem silent_flatMap {α : Type} {items : List α} {f : α → List Issue} :
    Silent about (items.flatMap f) ↔ ∀ item ∈ items, Silent about (f item) := by
  simp only [Silent, List.forall_mem_flatMap]

theorem silent_map {α : Type} {items : List α} {f : α → Issue} :
    Silent about (items.map f) ↔ ∀ item ∈ items, about (f item).problem = false := by
  simp only [Silent, List.forall_mem_map]

@[simp] theorem silent_issueIf {condition : Bool} {path : String} {problem : Problem} :
    Silent about (issueIf condition path problem) ↔ (condition = true → about problem = false) := by
  cases condition <;> simp [issueIf]

/-- Issues of other problems do not matter. -/
theorem silent_of_other {α : Type} {items : List α} {f : α → Issue}
    (other : ∀ item, about (f item).problem = false) : Silent about (items.map f) :=
  silent_map.mpr fun item _ => other item

end Silent

/-! ### Functions -/

/-- Inside a function interfaces are on declared connection points, and the management interface is
at a machine if at any. -/
structure Vnfd.RefersWithin (vnfd : Vnfd) : Prop where
  interfaces : ∀ vdu ∈ vnfd.vdus, ∀ interface ∈ vdu.interfaces,
    vnfd.declares interface.pointRef = true
  mgmt : ∀ mgmt ∈ vnfd.mgmt, ∀ id ∈ mgmt.vdu, (vnfd.vdu? id).isSome = true

namespace Vnfd

private theorem silent_vduIssues {vnfd : Vnfd} {vdu : Vdu} :
    Silent Problem.ofMachines (vnfd.vduIssues vdu) ↔
      ∀ interface ∈ vdu.interfaces, vnfd.declares interface.pointRef = true := by
  have zero {flavor : VmFlavor} : Silent Problem.ofMachines
      ((zeroFlavors flavor).map fun field => ⟨vnfd.vduPath vdu, .zeroFlavor field⟩) :=
    silent_of_other fun _ => rfl
  have interfaces : Silent Problem.ofMachines
      ((vdu.interfaces.filter fun i => !vnfd.declares i.pointRef).map fun i =>
        ⟨vnfd.vduPath vdu, .unknownPoint i.name i.pointRef⟩) ↔
      ∀ interface ∈ vdu.interfaces, vnfd.declares interface.pointRef = true := by
    simp [silent_map, Problem.ofMachines]
  cases flavor : vdu.flavor <;>
    simp only [vduIssues, flavor, silent_append, silent_issueIf, silent_nil, zero, interfaces] <;>
    simp [Problem.ofMachines]

private theorem silent_mgmtIssues {vnfd : Vnfd} {mgmt : MgmtInterface} :
    Silent Problem.ofMachines (vnfd.mgmtIssues mgmt) ↔
      ∀ id ∈ mgmt.vdu, (vnfd.vdu? id).isSome = true := by
  cases own : mgmt.vdu <;> cases point : mgmt.cp <;>
    simp [mgmtIssues, own, point, Problem.ofMachines, Option.ne_none_iff_isSome]

theorem silent_validate {vnfd : Vnfd} :
    Silent Problem.ofMachines vnfd.validate ↔ vnfd.RefersWithin := by
  have vdus : Silent Problem.ofMachines ((repeated (vnfd.vdus.map (·.id))).map fun id =>
      ⟨vnfd.path, .duplicateVdu id⟩) := silent_of_other fun _ => rfl
  have points : Silent Problem.ofMachines ((repeated (vnfd.points.map (·.name))).map fun name =>
      ⟨vnfd.path, .duplicatePoint name⟩) := silent_of_other fun _ => rfl
  have internal : Silent Problem.ofMachines (vnfd.internalVlds.flatMap vnfd.internalVldIssues) :=
    silent_flatMap.mpr fun _ _ => silent_of_other fun _ => rfl
  have machines : Silent Problem.ofMachines (vnfd.vdus.flatMap vnfd.vduIssues) ↔
      ∀ vdu ∈ vnfd.vdus, ∀ interface ∈ vdu.interfaces,
        vnfd.declares interface.pointRef = true := by
    simp only [silent_flatMap, silent_vduIssues]
  have parts : vnfd.RefersWithin ↔
      (∀ vdu ∈ vnfd.vdus, ∀ interface ∈ vdu.interfaces,
        vnfd.declares interface.pointRef = true) ∧
      ∀ mgmt ∈ vnfd.mgmt, ∀ id ∈ mgmt.vdu, (vnfd.vdu? id).isSome = true :=
    ⟨fun within => ⟨within.interfaces, within.mgmt⟩, fun within => ⟨within.1, within.2⟩⟩
  rw [parts]
  cases mgmt : vnfd.mgmt <;>
    simp only [validate, mgmt, silent_append, silent_issueIf, silent_nil, silent_mgmtIssues, vdus,
      points, internal, machines] <;>
    simp [Problem.ofMachines]

end Vnfd

/-! ### Services -/

/-- The parts of a service refer to its constituents by distinct indices and with the right
functions, and all of these are supplied. -/
structure Nsd.RefersWithin (nsd : Nsd) (vnfds : List Vnfd) : Prop where
  distinct : (nsd.constituents.map (·.index)).Nodup
  supplied : ∀ member ∈ nsd.constituents, (checkedVnfd? vnfds member.vnfd).isSome = true
  links : ∀ vld ∈ nsd.vlds, ∀ ref ∈ vld.pointRefs, nsd.memberVnfd? ref.member = some ref.vnfd
  scaling : ∀ group ∈ nsd.scalingGroups, ∀ member ∈ group.members,
    (nsd.memberVnfd? member.member).isSome = true
  placement : ∀ group ∈ nsd.placementGroups, ∀ member ∈ group.members,
    nsd.memberVnfd? member.member = some member.vnfd
  paths : ∀ graph ∈ nsd.graphs, ∀ path ∈ graph.paths, ∀ hop ∈ path.hops,
    nsd.memberVnfd? hop.member = some hop.vnfd

namespace Nsd

variable {nsd : Nsd} {vnfds : List Vnfd}

private theorem silent_constituentIssues {seen : List UInt32}
    {constituents : List ConstituentVnfd} :
    Silent Problem.ofMembers (nsd.constituentIssues vnfds seen constituents) ↔
      ((constituents.map (·.index)).Nodup ∧ ∀ member ∈ constituents, member.index ∉ seen) ∧
        ∀ member ∈ constituents, (checkedVnfd? vnfds member.vnfd).isSome = true := by
  induction constituents generalizing seen with
  | nil => simp [constituentIssues]
  | cons member rest ih =>
    have supplied : (checkedVnfd? vnfds member.vnfd).isSome = true ↔
        ¬ (!(checkedVnfd? vnfds member.vnfd).isSome) = true := by
      cases (checkedVnfd? vnfds member.vnfd).isSome <;> simp
    rw [nodup_and_fresh_cons ConstituentVnfd.index, List.forall_mem_cons]
    simp only [constituentIssues, silent_append, silent_issueIf, ih, supplied, Problem.ofMembers,
      List.contains_iff_mem, Bool.true_eq_false]
    constructor
    · rintro ⟨⟨new, own⟩, distinct, allSupplied⟩
      exact ⟨⟨new, distinct⟩, own, allSupplied⟩
    · rintro ⟨⟨new, distinct⟩, own, allSupplied⟩
      exact ⟨⟨new, own⟩, distinct, allSupplied⟩

private theorem silent_pointRefIssues {path : String} {ref : PointRef} :
    Silent Problem.ofMembers (nsd.pointRefIssues vnfds path ref) ↔
      nsd.memberVnfd? ref.member = some ref.vnfd := by
  rw [pointRefIssues]
  cases nsd.memberVnfd? ref.member with
  | none => simp [Problem.ofMembers]
  | some actual =>
    by_cases same : actual = ref.vnfd
    · cases checkedVnfd? vnfds ref.vnfd <;> simp [same, Problem.ofMembers]
    · simp [same, Problem.ofMembers]

private theorem silent_scalingIssues {group : ScalingGroup} :
    Silent Problem.ofMembers (nsd.scalingIssues group) ↔
      ∀ member ∈ group.members, (nsd.memberVnfd? member.member).isSome = true := by
  cases least : group.minInstances <;> cases greatest : group.maxInstances <;>
    simp [scalingIssues, least, greatest, silent_map, Problem.ofMembers,
      Option.isSome_iff_ne_none]

private theorem silent_placementMemberIssues {path : String} {member : PlacementMember} :
    Silent Problem.ofMembers (nsd.placementMemberIssues path member) ↔
      nsd.memberVnfd? member.member = some member.vnfd := by
  rw [placementMemberIssues]
  cases nsd.memberVnfd? member.member <;> simp [Problem.ofMembers]

private theorem silent_primitiveIssues {seen : List UInt32} {primitives : List ConfigPrimitive} :
    Silent Problem.ofMembers (nsd.primitiveIssues seen primitives) := by
  induction primitives generalizing seen with
  | nil => exact silent_nil
  | cons primitive rest ih => simp [primitiveIssues, ih, Problem.ofMembers]

theorem silent_validate :
    Silent Problem.ofMembers (nsd.validate vnfds) ↔ nsd.RefersWithin vnfds := by
  have vlds : Silent Problem.ofMembers ((repeated (nsd.vlds.map (·.id))).map fun id =>
      ⟨nsd.path, .duplicateVld id⟩) := silent_of_other fun _ => rfl
  simp only [validate, silent_append, silent_issueIf, silent_constituentIssues, vlds,
    silent_flatMap, vldIssues, silent_pointRefIssues, silent_scalingIssues, placementIssues,
    silent_placementMemberIssues, silent_primitiveIssues, pathIssues]
  constructor
  · rintro ⟨⟨⟨⟨⟨⟨⟨-, ⟨distinct, -⟩, supplied⟩, -⟩, links⟩, scaling⟩, placement⟩, -⟩, paths⟩
    exact ⟨distinct, supplied, links, scaling, placement, paths⟩
  · rintro ⟨distinct, supplied, links, scaling, placement, paths⟩
    exact ⟨⟨⟨⟨⟨⟨⟨⟨by simp [Problem.ofMembers], by simp [Problem.ofMembers]⟩,
      ⟨distinct, by simp⟩, supplied⟩, trivial⟩, links⟩, scaling⟩, placement⟩, trivial⟩, paths⟩

end Nsd

end NfvCatalog
