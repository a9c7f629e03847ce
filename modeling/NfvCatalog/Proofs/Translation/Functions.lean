import NfvCatalog.Proofs.Lists.Basic
import NfvCatalog.Proofs.Translation.Machines

/-! # Functions that come back

The VNF node of a constituent claims the constituent's machines, which are unclaimed until then, and
becomes its descriptor without connection points. Nothing but a configuration without a JSON form
keeps it from that.
-/

namespace NfvCatalog

/-- The configuration of a function, if it has one, has a JSON form. -/
def Vnfd.ConfigurationReads (vnfd : Vnfd) : Prop :=
  ∀ value ∈ vnfd.configuration, ∃ opaque_value, value.toOpaque = .ok opaque_value

end NfvCatalog

namespace NfvCatalog.Translation

open Tosca

/-- The descriptor of a function before its interfaces are attached. -/
def bareVnfd (vnfd : Vnfd) : Vnfd :=
  { restoredVnfd vnfd with points := [], vdus := vnfd.vdus.map restoredVdu }

/-- The draft of a constituent before its interfaces are attached. -/
def functionDraft (inService : Bool) (m : MemberNodes) : FunctionDraft :=
  { node := m.vnf
    index := if inService then some m.member.index else none
    startByDefault := m.member.startByDefault
    vnfd := bareVnfd m.vnfd
    logo := m.vnfd.logo.map ("icons/" ++ ·) }

/-! ## Claims -/

/-- The machines of a VNF as it claims them. -/
def claimedMachines (machines : List (String × Vdu)) : Claimed :=
  machines.map fun machine => (machine.1, restoredVdu machine.2)

/-- Claiming one machine that is unclaimed. -/
private theorem claimMachines_cons {s : Surroundings} (entity : String) (place : Nat)
    {machine : String × Vdu} (rest : List String) (claimed : Claimed)
    (before after : List MachineDraft) {d : Drafts} (known : s.Knows machine.1 .vdu)
    (machines : d.machines = before ++ machineDraft none machine :: after)
    (fresh : machine.1 ∉ before.map (·.node)) :
    claimMachines s entity place (machine.1 :: rest) claimed d =
      claimMachines s entity place rest (claimed ++ [(machine.1, restoredVdu machine.2)])
        { d with machines := before ++ machineDraft (some place) machine :: after } := by
  have at_place : d.machinePlace? machine.1 = some before.length := by
    rw [Drafts.machinePlace?, machines]
    refine findIdx?_append_cons (fun other member => ?_) (by simp [machineDraft])
    simp only [decide_eq_false_iff_not]
    exact fun same => fresh (same ▸ List.mem_map_of_mem member)
  have draft : d.machines[before.length]? = some (machineDraft none machine) := by
    rw [machines]
    exact getElem?_append_cons before _ after
  have owned : ownMachine before.length place d =
      { d with machines := before ++ machineDraft (some place) machine :: after } := by
    rw [ownMachine, machines, modify_append_cons]
    rfl
  rw [claimMachines, known.requireTarget, ok_bind, at_place]
  simp only [draft, owned]
  rfl

/-- A VNF claims its machines in order when none of them is claimed yet. -/
theorem claimMachines_unclaimed {s : Surroundings} (entity : String) (place : Nat)
    {mine : List (String × Vdu)} (known : ∀ machine ∈ mine, s.Knows machine.1 .vdu)
    (claimed : Claimed) (before after : List MachineDraft) {d : Drafts}
    (machines : d.machines = before ++ mine.map (machineDraft none) ++ after)
    (distinct : (before.map (·.node) ++ mine.map Prod.fst).Nodup) :
    claimMachines s entity place (mine.map Prod.fst) claimed d =
      .ok (claimed ++ claimedMachines mine,
        { d with machines := before ++ mine.map (machineDraft (some place)) ++ after }) := by
  induction mine generalizing claimed before d with
  | nil =>
    have same : before ++ after = d.machines := by simpa using machines.symm
    simp [claimMachines, claimedMachines, same]
  | cons machine rest ih =>
    have fresh : machine.1 ∉ before.map (·.node) := fun member =>
      List.disjoint_of_nodup_append distinct member (List.mem_cons_self ..)
    have first := claimMachines_cons entity place (rest.map Prod.fst) claimed before
      (rest.map (machineDraft none) ++ after) (known machine (List.mem_cons_self ..))
      (by simpa using machines) fresh
    have others := ih (fun other member => known other (List.mem_cons_of_mem _ member))
      (claimed ++ [(machine.1, restoredVdu machine.2)])
      (before ++ [machineDraft (some place) machine])
      (d := { d with machines :=
        before ++ machineDraft (some place) machine :: (rest.map (machineDraft none) ++ after) })
      (by simp) (by simpa [machineDraft] using distinct)
    rw [List.map_cons, first, others]
    simp [claimedMachines]

/-! ## Management interfaces -/

private theorem dashboardOf_written (dashboard : Dashboard) (entity : String) :
    dashboardOf (properties [
      ("path", textProperty dashboard.path),
      ("port", dashboard.port.map portValue),
      ("https", dashboard.https.map .bool)]) entity = .ok dashboard := by
  have port : portProperty? (properties [
      ("path", textProperty dashboard.path),
      ("port", dashboard.port.map portValue),
      ("https", dashboard.https.map .bool)]) entity "port" = .ok dashboard.port :=
    portProperty?_of_get? (by simp) entity
  rw [dashboardOf, port]
  simp [Value.Entries.text?, Value.Entries.truth?]

/-- A management interface without properties says nothing that a function keeps. -/
private theorem mgmtProperties_eq_nil (machines : List (String × Vdu)) (mgmt : MgmtInterface) :
    mgmtProperties machines mgmt = [] ↔
      { mgmt with
        vdu := mgmt.vdu.filter fun id => (machines.find? (·.2.id = id)).isSome } =
          ({ } : MgmtInterface) := by
  simp [mgmtProperties, properties, textProperty]

section Mgmt

variable {s : Surroundings} {machines : List (String × Vdu)}
  (known : ∀ machine ∈ machines, s.Knows machine.1 .vdu)
  (distinct : (machines.map Prod.fst).Nodup)
include known distinct

/-- The machine of a management interface is written as its node and read back as its id. -/
private theorem mgmtVdu_written (mgmt : MgmtInterface) (entity : String) :
    mgmtVdu s entity (claimedMachines machines) (mgmtProperties machines mgmt) =
      .ok (mgmt.vdu.filter fun id => (machines.find? (·.2.id = id)).isSome) := by
  have written : (mgmtProperties machines mgmt).text? "vdu" =
      mgmt.vdu.bind fun id => (machines.find? (·.2.id = id)).map Prod.fst := by
    simp [mgmtProperties, Value.Entries.text?]
  rw [mgmtVdu, written]
  cases given : mgmt.vdu with
  | none => rfl
  | some id =>
    cases found : machines.find? (·.2.id = id) with
    | none => simp [found, Option.filter]
    | some machine =>
      have member : machine ∈ machines := List.mem_of_find?_eq_some found
      have sameId : machine.2.id = id := by simpa using List.find?_some found
      have names : (claimedMachines machines).map Prod.fst = machines.map Prod.fst := by
        simp [claimedMachines]
      have entry : (machine.1, restoredVdu machine.2) ∈ claimedMachines machines :=
        List.mem_map.mpr ⟨machine, member, rfl⟩
      have claimed : (claimedMachines machines).find? (·.1 = machine.1) =
          some (machine.1, restoredVdu machine.2) :=
        find?_key Prod.fst (names ▸ distinct) entry
      simp [found, (known machine member).requireTarget, claimed, Option.filter, restoredVdu,
        sameId]

/-- A management interface is read back without a machine that is none of the function's. -/
private theorem mgmtOf_written (mgmt : MgmtInterface) (entity : String) :
    mgmtOf s entity (claimedMachines machines) (mgmtProperties machines mgmt) =
      .ok { mgmt with
        vdu := mgmt.vdu.filter fun id => (machines.find? (·.2.id = id)).isSome } := by
  have port : portProperty? (mgmtProperties machines mgmt) entity "port" = .ok mgmt.port :=
    portProperty?_of_get? (by simp [mgmtProperties]) entity
  have cp : (mgmtProperties machines mgmt).text? "cp" = mgmt.cp := by
    simp [mgmtProperties, Value.Entries.text?]
  have inner : (mgmtProperties machines mgmt).mapping? "dashboard_params" =
      mgmt.dashboard.map fun dashboard => properties [
        ("path", textProperty dashboard.path),
        ("port", dashboard.port.map portValue),
        ("https", dashboard.https.map .bool)] := by
    cases dashboard : mgmt.dashboard <;>
      simp [mgmtProperties, Value.Entries.mapping?, dashboard, dashboardProperties, Value.mapping?,
        Value.untagged]
  rw [mgmtOf, mgmtVdu_written known distinct, port, inner, cp]
  cases dashboard : mgmt.dashboard with
  | none => simp
  | some dashboard =>
    simp [dashboardOf_written]
    rfl

theorem mgmtFor_written {vnfd : Vnfd} (complete : machines.map Prod.snd = vnfd.vdus)
    {entries : Value.Entries} (written : entries.mapping? "mgmt_interface" =
      vnfd.mgmt.bind fun mgmt =>
        if mgmtProperties machines mgmt = [] then none else some (mgmtProperties machines mgmt))
    (entity : String) :
    mgmtFor s entity (claimedMachines machines) entries = .ok (restoredMgmt vnfd) := by
  have own (id : String) : (vnfd.vdu? id).isSome = (machines.find? (·.2.id = id)).isSome := by
    rw [Vnfd.vdu?, ← complete, List.find?_map, Option.isSome_map]
    rfl
  rw [mgmtFor.eq_def, written, restoredMgmt, ← complete]
  simp only [own]
  cases vnfd.mgmt with
  | none => rcases machines with _ | ⟨machine, _ | ⟨other, rest⟩⟩ <;> rfl
  | some mgmt =>
    rw [Option.bind_some, Option.map_some, filter_ne_some]
    by_cases empty : mgmtProperties machines mgmt = []
    · rw [if_pos empty, if_pos ((mgmtProperties_eq_nil machines mgmt).mp empty)]
      rcases machines with _ | ⟨machine, _ | ⟨other, rest⟩⟩ <;> rfl
    · rw [if_neg empty,
        if_neg fun nothing => empty ((mgmtProperties_eq_nil machines mgmt).mpr nothing)]
      simp only [mgmtOf_written known distinct]
      rfl

end Mgmt

/-! ## Functions -/

/-- A configuration is read exactly if it has a JSON form. -/
private theorem configurationOf_written (vnfd : Vnfd) {entries : Value.Entries}
    (written : entries.get? "vnf_configuration" = vnfd.configuration) (entity : String)
    (result : Option Value) :
    configurationOf entity entries = .ok result ↔
      vnfd.ConfigurationReads ∧
        result = vnfd.configuration.bind fun value => value.toOpaque.toOption := by
  rw [configurationOf, written]
  cases given : vnfd.configuration with
  | none => simp [Vnfd.ConfigurationReads, given, eq_comm]
  | some value =>
    cases read : value.toOpaque with
    | error fault => simp [Vnfd.ConfigurationReads, given, read]
    | ok plain => simp [Vnfd.ConfigurationReads, given, read, Except.toOption, eq_comm]

section FunctionNode

variable (vnfd : Vnfd) (member : ConstituentVnfd) (inService : Bool)
  (machines : List (String × Vdu))

private theorem targets_functionNode :
    (functionNode vnfd member inService machines).targets "vdus" = machines.map Prod.fst := by
  simp [functionNode, NodeTemplate.targets, NodeTemplate.requirementPairs, List.flatMap_map,
    RequirementTarget.nodeName, List.filter_map, Function.comp_def, ← List.map_eq_flatMap]

private theorem mgmt_functionNode :
    (functionNode vnfd member inService machines).properties.mapping? "mgmt_interface" =
      vnfd.mgmt.bind fun mgmt =>
        if mgmtProperties machines mgmt = [] then none
        else some (mgmtProperties machines mgmt) := by
  cases given : vnfd.mgmt with
  | none => simp [functionNode, Value.Entries.mapping?, given]
  | some mgmt =>
    by_cases empty : mgmtProperties machines mgmt = [] <;>
      simp [functionNode, Value.Entries.mapping?, given, empty, Value.mapping?, Value.untagged]

private theorem index_functionNode (entity : String) :
    wholeProperty? (functionNode vnfd member inService machines).properties entity
        "member_index" =
      .ok (if inService then some member.index else none) :=
  wholeProperty?_of_get? (by cases inService <;> simp [functionNode]) entity

end FunctionNode

/-- What is read off a VNF node, together with its machines, is the draft of the constituent. -/
private theorem draft_functionNode (inService : Bool) {m : MemberNodes} (complete : m.Complete)
    {node : NodeTemplate} (named : node = functionNode m.vnfd m.member inService m.machines) :
    FunctionDraft.mk m.vnf (if inService then some m.member.index else none)
      (node.properties.truth? "start_by_default")
      { id := m.vnfd.id
        name := nameOf node.properties m.vnf
        shortName := node.properties.text? "short_name"
        vendor := node.properties.text? "vendor"
        description := descriptionOf node
        version := node.properties.text? "version"
        logo := (node.properties.text? "logo").map baseName
        mgmt := restoredMgmt m.vnfd
        vdus := (claimedMachines m.machines).map Prod.snd
        configuration := m.vnfd.configuration.bind fun value => value.toOpaque.toOption }
      (node.properties.text? "logo") = functionDraft inService m := by
  have vdus : (claimedMachines m.machines).map Prod.snd = m.vnfd.vdus.map restoredVdu := by
    simp [claimedMachines, ← complete.machines]
  have logo : node.properties.text? "logo" = m.vnfd.logo.map ("icons/" ++ ·) := by
    cases given : m.vnfd.logo <;> simp [named, functionNode, Value.Entries.text?, given]
  rw [vdus, logo]
  simp [named, functionNode, functionDraft, bareVnfd, restoredVnfd, Value.Entries.text?,
    Value.Entries.truth?, nameOf, descriptionOf, Function.comp_def]

/-- The VNF node of a constituent becomes its descriptor and claims its machines. -/
theorem addFunction_functionNode {s : Surroundings} {m : MemberNodes} (inService : Bool)
    (complete : m.Complete) (known : ∀ machine ∈ m.machines, s.Knows machine.1 .vdu)
    {before after : List MachineDraft} {d : Drafts}
    (machines : d.machines = before ++ m.machines.map (machineDraft none) ++ after)
    (distinct : (before.map (·.node) ++ m.machines.map Prod.fst).Nodup) (d' : Drafts) :
    (functionItem inService m).run s d = .ok d' ↔
      m.vnfd.ConfigurationReads ∧
        d' = { d with
          machines :=
            before ++ m.machines.map (machineDraft (some d.functions.length)) ++ after
          functions := d.functions ++ [functionDraft inService m] } := by
  obtain ⟨node, named⟩ : ∃ node, node = functionNode m.vnfd m.member inService m.machines :=
    ⟨_, rfl⟩
  have id : d.idOf s node.properties = (m.vnfd.id, d) :=
    idOf_of_text? (by simp [named, functionNode, Value.Entries.text?]) s d
  have configuration := configurationOf_written m.vnfd
    (by simp [named, functionNode] : node.properties.get? "vnf_configuration" = _) m.vnf
  have targets : node.targets "vdus" = m.machines.map Prod.fst :=
    named ▸ targets_functionNode m.vnfd m.member inService m.machines
  have claimed := claimMachines_unclaimed m.vnf d.functions.length known [] before after machines
    distinct
  have mgmt := mgmtFor_written known (List.Nodup.of_append_right distinct) complete.machines
    (mgmt_functionNode m.vnfd m.member inService m.machines) m.vnf
  have index := index_functionNode m.vnfd m.member inService m.machines m.vnf
  rw [← named] at mgmt index
  have drafted := draft_functionNode inService complete named
  have run : (functionItem inService m).run s d = addFunction s m.vnf node d := by
    rw [named]
    rfl
  rw [run]
  simp only [addFunction, id, bind_eq_ok, configuration, targets, claimed, List.nil_append, mgmt,
    index, pure_eq_ok, Except.ok.injEq, exists_eq_left']
  constructor
  · rintro ⟨_, ⟨readable, rfl⟩, rfl⟩
    exact ⟨readable, by rw [drafted]⟩
  · rintro ⟨readable, rfl⟩
    exact ⟨_, ⟨readable, rfl⟩, by rw [drafted]⟩

/-! ## Runs -/

/-- The machines of constituents, owned by the places that their VNFs take from a place on. -/
def ownedMachines (place : Nat) (members : List MemberNodes) : List MachineDraft :=
  (members.zipIdx place).flatMap fun (m, place) => m.machines.map (machineDraft (some place))

/-- Constituents become functions in order, and each claims its own machines. -/
theorem runWork_functions {s : Surroundings} (inService : Bool) {members : List MemberNodes}
    (complete : ∀ m ∈ members, m.Complete)
    (known : ∀ m ∈ members, ∀ machine ∈ m.machines, s.Knows machine.1 .vdu)
    {before : List MachineDraft} {d : Drafts}
    (machines : d.machines =
      before ++ members.flatMap fun m => m.machines.map (machineDraft none))
    (distinct : (before.map (·.node) ++
      members.flatMap fun m => m.machines.map Prod.fst).Nodup) (d' : Drafts) :
    runWork s (members.map (functionItem inService)) d = .ok d' ↔
      (∀ m ∈ members, m.vnfd.ConfigurationReads) ∧
        d' = { d with
          machines := before ++ ownedMachines d.functions.length members
          functions := d.functions ++ members.map (functionDraft inService) } := by
  induction members generalizing before d with
  | nil =>
    have same : before = d.machines := by simpa using machines.symm
    simp [runWork, ownedMachines, same, eq_comm]
  | cons m rest ih =>
    rw [List.flatMap_cons] at machines distinct
    have first := addFunction_functionNode inService (complete m (List.mem_cons_self ..))
      (known m (List.mem_cons_self ..)) (machines.trans (List.append_assoc ..).symm)
      (distinct.sublist ((List.Sublist.refl _).append (List.sublist_append_left ..)))
    have others := @ih (fun other member => complete other (List.mem_cons_of_mem _ member))
      (fun other member => known other (List.mem_cons_of_mem _ member))
      (before ++ m.machines.map (machineDraft (some d.functions.length)))
      { d with
        machines := before ++ m.machines.map (machineDraft (some d.functions.length)) ++
          rest.flatMap fun m => m.machines.map (machineDraft none)
        functions := d.functions ++ [functionDraft inService m] } rfl
      (by simpa [machineDraft, Function.comp_def] using distinct)
    simp only [List.map_cons, runWork, bind_eq_ok, first, List.forall_mem_cons]
    constructor
    · rintro ⟨_, ⟨readable, rfl⟩, ran⟩
      obtain ⟨readables, rfl⟩ := others.mp ran
      exact ⟨⟨readable, readables⟩, by simp [ownedMachines]⟩
    · rintro ⟨⟨readable, readables⟩, rfl⟩
      refine ⟨_, ⟨readable, rfl⟩, others.mpr ⟨readables, ?_⟩⟩
      simp [ownedMachines]

end NfvCatalog.Translation
