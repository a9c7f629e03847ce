import NfvCatalog.Proofs.Descriptor.Merged
import NfvCatalog.Proofs.Descriptor.Flaws
import NfvCatalog.Translation.Profile

/-! # Functions that share an id

A document may hold several functions of one id. Look-ups, and with them the translation of a
service, take the first one of an id, while validation checks references against the last one. Both
say the same of the connection points of an id exactly if its first and its last function declare
the same ones.
-/

namespace NfvCatalog

/-! ## References that are reported -/

namespace Problem

/-- A function lacks a connection point. -/
def isMissing (id point : String) (problem : Problem) : Bool := problem = .missingPoint id point

end Problem

namespace Nsd

variable {nsd : Nsd} {vnfds : List Vnfd} {id point : String}

/-- The references of a service to connection points: those of its links and of its paths. -/
def pointRefs (nsd : Nsd) : List PointRef :=
  nsd.vlds.flatMap (·.pointRefs) ++
    nsd.graphs.flatMap fun graph => graph.paths.flatMap fun path =>
      path.hops.map fun hop => ⟨hop.member, hop.vnfd, hop.point⟩

/-- A service refers to a connection point of a function by a constituent that is of it. -/
def RefersTo (nsd : Nsd) (id point : String) : Prop :=
  ∃ ref ∈ nsd.pointRefs, nsd.memberVnfd? ref.member = some id ∧ ref.vnfd = id ∧ ref.point = point

/-- Validation reports that a function lacks a connection point. -/
def ReportsMissing (nsd : Nsd) (vnfds : List Vnfd) (id point : String) : Prop :=
  ∃ issue ∈ nsd.validate vnfds, issue.problem = .missingPoint id point

theorem not_silent_iff_reportsMissing :
    ¬ Silent (Problem.isMissing id point) (nsd.validate vnfds) ↔
      nsd.ReportsMissing vnfds id point := by
  simp [Silent, ReportsMissing, Problem.isMissing]

private theorem silent_constituentIssues_missing (seen : List UInt32)
    (constituents : List ConstituentVnfd) :
    Silent (Problem.isMissing id point) (nsd.constituentIssues vnfds seen constituents) := by
  induction constituents generalizing seen with
  | nil => exact silent_nil
  | cons member rest ih => simp [constituentIssues, ih, Problem.isMissing]

private theorem silent_primitiveIssues_missing (seen : List UInt32)
    (primitives : List ConfigPrimitive) :
    Silent (Problem.isMissing id point) (nsd.primitiveIssues seen primitives) := by
  induction primitives generalizing seen with
  | nil => exact silent_nil
  | cons primitive rest ih => simp [primitiveIssues, ih, Problem.isMissing]

private theorem declares_eq_false_iff_point? {vnfd : Vnfd} :
    vnfd.declares point = false ↔ vnfd.point? point = none := by
  rw [Vnfd.declares_eq_false, Vnfd.point?_eq_none]

/-- A reference is reported for a point of a function if its constituent is of the function and the
one that is looked at does not declare the point. -/
private theorem silent_pointRefIssues_missing (path : String) (ref : PointRef) :
    Silent (Problem.isMissing id point) (nsd.pointRefIssues vnfds path ref) ↔
      (nsd.memberVnfd? ref.member = some id ∧ ref.vnfd = id ∧ ref.point = point →
        ∀ vnfd ∈ checkedVnfd? vnfds id, vnfd.declares point ≠ false) := by
  by_cases target : ref.vnfd = id ∧ ref.point = point
  · obtain ⟨rfl, rfl⟩ := target
    rw [pointRefIssues]
    cases nsd.memberVnfd? ref.member with
    | none => simp [Problem.isMissing]
    | some actual =>
      by_cases same : actual = ref.vnfd
      · cases checkedVnfd? vnfds ref.vnfd with
        | none => simp [same]
        | some vnfd => simp [same, Problem.isMissing, declares_eq_false_iff_point?]
      · simp [same, Problem.isMissing]
  · -- A reference to another point may be wrong, but not for this one.
    have other : Silent (Problem.isMissing id point) (nsd.pointRefIssues vnfds path ref) := by
      rw [pointRefIssues]
      cases nsd.memberVnfd? ref.member with
      | none => simp [Problem.isMissing]
      | some actual =>
        by_cases same : actual = ref.vnfd
        · cases checkedVnfd? vnfds ref.vnfd with
          | none => simp [same]
          | some vnfd => simpa [same, Problem.isMissing] using fun _ => not_and.mp target
        · simp [same, Problem.isMissing]
    exact iff_of_true other fun refers => absurd refers.2 target

/-- A point of a function is reported exactly if the service refers to it and the function that is
looked at does not declare it. -/
theorem reportsMissing_iff :
    nsd.ReportsMissing vnfds id point ↔
      nsd.RefersTo id point ∧ ∃ vnfd ∈ checkedVnfd? vnfds id, vnfd.declares point = false := by
  have vlds : Silent (Problem.isMissing id point) ((repeated (nsd.vlds.map (·.id))).map fun id =>
      ⟨nsd.path, .duplicateVld id⟩) := silent_of_other fun _ => rfl
  have scaling : Silent (Problem.isMissing id point)
      (nsd.scalingGroups.flatMap nsd.scalingIssues) := by
    refine silent_flatMap.mpr fun group _ => ?_
    rw [scalingIssues, silent_append]
    refine ⟨?_, silent_of_other fun _ => rfl⟩
    cases group.minInstances <;> cases group.maxInstances <;> simp [Problem.isMissing]
  have placement : Silent (Problem.isMissing id point)
      (nsd.placementGroups.flatMap nsd.placementIssues) := by
    refine silent_flatMap.mpr fun group _ => silent_flatMap.mpr fun placed _ => ?_
    rw [placementMemberIssues]
    cases nsd.memberVnfd? placed.member <;> simp [Problem.isMissing]
  have silent : Silent (Problem.isMissing id point) (nsd.validate vnfds) ↔
      ∀ ref ∈ nsd.pointRefs,
        nsd.memberVnfd? ref.member = some id ∧ ref.vnfd = id ∧ ref.point = point →
          ∀ vnfd ∈ checkedVnfd? vnfds id, vnfd.declares point ≠ false := by
    simp only [validate, silent_append, silent_issueIf, silent_constituentIssues_missing, vlds,
      scaling, placement, silent_primitiveIssues_missing, silent_flatMap, vldIssues, pathIssues,
      silent_pointRefIssues_missing, pointRefs, List.forall_mem_append, List.forall_mem_flatMap,
      List.forall_mem_map]
    simp [Problem.isMissing]
  rw [← not_silent_iff_reportsMissing, silent]
  push Not
  constructor
  · rintro ⟨ref, own, refers, vnfd, checked, missing⟩
    exact ⟨⟨ref, own, refers⟩, vnfd, checked, missing⟩
  · rintro ⟨⟨ref, own, refers⟩, vnfd, checked, missing⟩
    exact ⟨ref, own, refers, vnfd, checked, missing⟩

/-- The service that refers to one connection point of a function and to nothing else. -/
def probing (id point : String) : Nsd :=
  { id := id
    constituents := [{ index := 1, vnfd := id }]
    vlds := [{ id := point, pointRefs := [⟨1, id, point⟩] }] }

theorem probing_refersTo (id point : String) : (probing id point).RefersTo id point :=
  ⟨⟨1, id, point⟩, by simp [probing, pointRefs], by simp [probing, memberVnfd?], rfl, rfl⟩

end Nsd

/-! ## Which function is looked at -/

namespace Translation

/-- Constituents get their nodes from what look-ups find. -/
theorem allMemberNodes_congr {set other : DescriptorSet}
    (same : ∀ id, set.vnfd? id = other.vnfd? id) (used : List String)
    (constituents : List ConstituentVnfd) :
    allMemberNodes set used constituents = allMemberNodes other used constituents := by
  induction constituents generalizing used with
  | nil => rfl
  | cons member rest ih => simp only [allMemberNodes, same, ih]

/-- A service is written with what look-ups find. -/
theorem templateOf_congr {set other : DescriptorSet} {nsd : Nsd} (own : set.nsds = [nsd])
    (otherOwn : other.nsds = [nsd]) (same : ∀ id, set.vnfd? id = other.vnfd? id) :
    templateOf set = templateOf other := by
  have described : describedService set = .ok (nsd, true) := by rw [describedService, own]
  have otherDescribed : describedService other = .ok (nsd, true) := by
    rw [describedService, otherOwn]
  rw [templateOf, templateOf, described, otherDescribed]
  simp only [layoutOf, allMemberNodes_congr same]

end Translation

namespace DescriptorSet

/-- The functions of an id, in document order. -/
def functionsOf (set : DescriptorSet) (id : String) : List Vnfd := set.vnfds.filter (·.id = id)

/-- The set without the functions whose id an earlier one has. -/
def withFirsts (set : DescriptorSet) : DescriptorSet :=
  { set with vnfds := appendNew Vnfd.id [] set.vnfds }

variable {set : DescriptorSet} {id : String}

theorem vnfd?_eq_head? : set.vnfd? id = (set.functionsOf id).head? := by
  rw [vnfd?, functionsOf, List.head?_filter]

theorem checkedVnfd?_eq_getLast? : checkedVnfd? set.vnfds id = (set.functionsOf id).getLast? := by
  rw [checkedVnfd?, functionsOf, List.getLast?_filter]

theorem vnfd?_withFirsts : set.withFirsts.vnfd? id = set.vnfd? id := by
  rw [vnfd?, withFirsts, find?_appendNew, List.nil_append, vnfd?]

/-- Validation judges references to an id by the function that is looked up exactly if the first and
the last function of the id declare the same connection points. -/
theorem reportsMissing_by_first_iff :
    (∀ (nsd : Nsd) point, nsd.ReportsMissing set.vnfds id point ↔
        nsd.RefersTo id point ∧ ∃ vnfd ∈ set.vnfd? id, vnfd.declares point = false) ↔
      ∀ first ∈ (set.functionsOf id).head?, ∀ last ∈ (set.functionsOf id).getLast?,
        ∀ point, first.declares point = last.declares point := by
  simp only [Nsd.reportsMissing_iff, checkedVnfd?_eq_getLast?, vnfd?_eq_head?]
  constructor
  · intro judged first isFirst last isLast point
    have probed := judged (Nsd.probing id point) point
    rw [Option.mem_def] at isFirst isLast
    simp only [Nsd.probing_refersTo id point, true_and, isFirst, isLast, Option.mem_some_iff,
      exists_eq_left'] at probed
    cases declared : first.declares point with
    | false => exact (probed.mpr declared).symm
    | true =>
      cases lastDeclared : last.declares point with
      | false => exact declared.symm.trans (probed.mp lastDeclared)
      | true => rfl
  · intro alike nsd point
    cases functions : set.functionsOf id with
    | nil => rfl
    | cons first rest =>
      obtain ⟨last, isLast⟩ : ∃ last, (first :: rest).getLast? = some last :=
        ⟨_, List.getLast?_eq_some_getLast (List.cons_ne_nil first rest)⟩
      rw [functions] at alike
      have same := alike first rfl last isLast point
      simp only [isLast, List.head?_cons, Option.mem_some_iff, exists_eq_left', same]

/-- Translation takes the first function of each id, and so do look-ups, while validation checks
references against the last one. What validation reports of an id fits the translated function
exactly if both declare the same connection points. -/
theorem checked_function_iff (set : DescriptorSet) :
    (∀ nsd, set.nsds = [nsd] →
      Translation.templateOf set = Translation.templateOf set.withFirsts) ∧
      ∀ id,
        set.vnfd? id = (set.functionsOf id).head? ∧
          checkedVnfd? set.vnfds id = (set.functionsOf id).getLast? ∧
          (∀ (nsd : Nsd) point, nsd.ReportsMissing set.vnfds id point ↔
            nsd.RefersTo id point ∧
              ∃ vnfd ∈ (set.functionsOf id).getLast?, vnfd.declares point = false) ∧
          ((∀ (nsd : Nsd) point, nsd.ReportsMissing set.vnfds id point ↔
              nsd.RefersTo id point ∧ ∃ vnfd ∈ set.vnfd? id, vnfd.declares point = false) ↔
            ∀ first ∈ (set.functionsOf id).head?, ∀ last ∈ (set.functionsOf id).getLast?,
              ∀ point, first.declares point = last.declares point) := by
  constructor
  · intro nsd own
    exact Translation.templateOf_congr own own fun id => vnfd?_withFirsts.symm
  · intro id
    refine ⟨vnfd?_eq_head?, checkedVnfd?_eq_getLast?, fun nsd point => ?_,
      reportsMissing_by_first_iff⟩
    rw [Nsd.reportsMissing_iff, checkedVnfd?_eq_getLast?]

end DescriptorSet

end NfvCatalog
